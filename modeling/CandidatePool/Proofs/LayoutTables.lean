import CandidatePool.Proofs.LayoutLines
/-!
The document of a text in the layout, and the table that it denotes.  Each group of entries becomes a
table of its own, since no key comes twice in it; the tables of the relays are gathered under one key,
in order, and that key is there only if there are relays.
-/

namespace CandidatePool.Layout

open Toml

/-! ### Values that are read -/

/-- The node of a value, whatever its size. -/
def Value.node : Value → Node
  | .integer n => .integer n
  | .flag b => .boolean b
  | .string s => .string s
  | .strings l => .array (l.map .string)

/-- A value that is read as something. -/
def Value.Fits (v : Value) : Prop := v.node? = some v.node

theorem Value.Extra.fits {v : Value} (h : v.Extra) : v.Fits := by
  cases h with
  | integer h => exact if_pos h
  | string s => rfl

theorem Value.fits_of_node? {v : Value} {node : Node} (h : v.node? = some node) : v.Fits := by
  cases v with
  | integer n =>
      have hbounds := ((Option.ite_none_right_eq_some).mp h).1
      exact if_pos hbounds
  | _ => rfl

theorem mapM_eq_some_iff {α β : Type} {f : α → Option β} {l : List α} {m : List β} :
    l.mapM f = some m ↔ List.Forall₂ (fun a b => f a = some b) l m := by
  induction l generalizing m with
  | nil => simp [eq_comm]
  | cons a l ih =>
      rw [List.mapM_cons, List.forall₂_cons_left_iff]
      simp only [Option.bind_eq_bind, Option.bind_eq_some_iff, ih, Option.pure_def,
        Option.some.injEq]
      constructor
      · rintro ⟨b, hb, m, hm, rfl⟩
        exact ⟨b, m, hb, hm, rfl⟩
      · rintro ⟨b, m, hb, hm, rfl⟩
        exact ⟨b, hb, m, hm, rfl⟩

theorem exists_forall₂_iff {α β : Type} {R : α → β → Prop} {l : List α} :
    (∃ m, List.Forall₂ R l m) ↔ ∀ a ∈ l, ∃ b, R a b := by
  induction l with
  | nil => simp
  | cons a l ih =>
      rw [List.forall_mem_cons, ← ih]
      constructor
      · rintro ⟨m, h⟩
        obtain ⟨b, m, hb, hm, -⟩ := List.forall₂_cons_left_iff.mp h
        exact ⟨⟨b, hb⟩, m, hm⟩
      · rintro ⟨⟨b, hb⟩, m, hm⟩
        exact ⟨b :: m, .cons hb hm⟩

/-! ### Documents -/

def pairs (t : Entries) : List (List String × Node) := t.map fun e => ([e.1], e.2.node)

def Row.line : Row → Line
  | .blank => .blank
  | .entry key v => .pair [key] v.node
  | .allocator => .header (.table ["allocator"])
  | .relay => .header (.element ["allocator", "turn_servers"])

theorem mapM_line {rows : List Row} (h : ∀ key v, .entry key v ∈ rows → v.Fits) :
    rows.mapM Row.line? = some (rows.map Row.line) := by
  rw [mapM_eq_some_iff, List.forall₂_map_right_iff, List.forall₂_same]
  intro row hrow
  cases row with
  | entry key v =>
      have hfits : v.node? = some v.node := h key v hrow
      simp only [Row.line?, hfits, Option.map_some, Row.line]
  | _ => rfl

theorem ofLines_filter (rows : List Row) :
    Document.ofLines ((rows.filter (· ≠ .blank)).map Row.line) =
      Document.ofLines (rows.map Row.line) := by
  induction rows with
  | nil => rfl
  | cons row rows ih =>
      cases row with
      | blank =>
          rw [List.filter_cons_of_neg (by decide), ih]
          rfl
      | entry key v =>
          rw [List.filter_cons_of_pos (by simp)]
          simp only [List.map_cons, Row.line, Document.ofLines, ih]
      | allocator =>
          rw [List.filter_cons_of_pos (by decide)]
          simp only [List.map_cons, Row.line, Document.ofLines, ih]
      | relay =>
          rw [List.filter_cons_of_pos (by decide)]
          simp only [List.map_cons, Row.line, Document.ofLines, ih]

theorem ofLines_entries (t : Entries) (later : List Line) :
    Document.ofLines ((entryRows t).map Row.line ++ later) =
      { Document.ofLines later with preamble := pairs t ++ (Document.ofLines later).preamble } := by
  induction t with
  | nil => rfl
  | cons e t ih =>
      simp only [entryRows, List.map_cons, List.cons_append, Row.line, Document.ofLines,
        pairs] at ih ⊢
      rw [ih]

def Contents.document (l : Contents) : Document where
  preamble := pairs l.preamble
  sections := ⟨.table ["allocator"], pairs l.allocator⟩ ::
    l.relays.map fun t => ⟨.element ["allocator", "turn_servers"], pairs t⟩

theorem ofLines_relays (relays : List Entries) :
    Document.ofLines ((relays.flatMap fun t => .relay :: entryRows t).map Row.line) =
      ⟨[], relays.map fun t => ⟨.element ["allocator", "turn_servers"], pairs t⟩⟩ := by
  induction relays with
  | nil => rfl
  | cons t relays ih =>
      rw [List.flatMap_cons, List.map_append, List.map_cons, List.cons_append, Row.line,
        Document.ofLines, ofLines_entries, ih]
      simp

theorem ofLines_rows (l : Contents) : Document.ofLines (l.rows.map Row.line) = l.document := by
  rw [Contents.rows, List.append_assoc, List.map_append, ofLines_entries, List.cons_append,
    List.map_cons, Row.line, Document.ofLines, List.map_append, ofLines_entries, ofLines_relays]
  simp [Contents.document]

/-- The entries among the lines of some contents are those of their tables. -/
theorem Contents.entry_mem_iff {l : Contents} {rows : List Row}
    (hrows : rows.filter (· ≠ .blank) = l.rows) {key : String} {v : Value} :
    .entry key v ∈ rows ↔ ∃ t ∈ l.preamble :: l.allocator :: l.relays, (key, v) ∈ t := by
  have hfilter : .entry key v ∈ rows ↔ .entry key v ∈ l.rows := by
    rw [← hrows, List.mem_filter]
    simp
  have hentries : ∀ t : Entries, .entry key v ∈ entryRows t ↔ (key, v) ∈ t := by
    intro t
    simp [entryRows]
  rw [hfilter]
  simp only [Contents.rows, List.mem_append, List.mem_cons, List.mem_flatMap, hentries,
    reduceCtorEq, false_or, exists_eq_or_imp, or_assoc]

/-- A text is read as the document of its contents, if all its values are read. -/
theorem Contents.WrittenAs.document {l : Contents} {text : String} (h : l.WrittenAs text)
    (hfits : ∀ t ∈ l.preamble :: l.allocator :: l.relays, ∀ e ∈ t, e.2.Fits) :
    Document.ofText? text.toList = some l.document := by
  obtain ⟨rows, hrows, htext⟩ := h
  have hentry : ∀ key v, .entry key v ∈ rows → v.Fits := by
    intro key v hmem
    obtain ⟨t, ht, he⟩ := (Contents.entry_mem_iff hrows).mp hmem
    exact hfits t ht _ he
  rw [htext.document, mapM_line hentry, Option.map_some, ← ofLines_filter, hrows, ofLines_rows]

/-- A text that is read as any document has no value that is not read. -/
theorem Contents.WrittenAs.fits {l : Contents} {text : String} (h : l.WrittenAs text)
    {d : Document} (hd : Document.ofText? text.toList = some d) :
    ∀ t ∈ l.preamble :: l.allocator :: l.relays, ∀ e ∈ t, e.2.Fits := by
  obtain ⟨rows, hrows, htext⟩ := h
  intro t ht e he
  rw [htext.document, Option.map_eq_some_iff] at hd
  obtain ⟨lines, hlines, -⟩ := hd
  have hall := exists_forall₂_iff.mp ⟨lines, mapM_eq_some_iff.mp hlines⟩
  obtain ⟨line, hline⟩ := hall _ ((Contents.entry_mem_iff hrows).mpr ⟨t, ht, he⟩)
  obtain ⟨node, hnode, -⟩ := Option.map_eq_some_iff.mp hline
  exact Value.fits_of_node? hnode

/-! ### Tables -/

def nodes (t : Entries) : Table := t.map fun e => (e.1, e.2.node)

theorem find?_nodes (t : Entries) (key : String) :
    (nodes t).find? key = (t.lookup key).map Value.node := by
  induction t with
  | nil => rfl
  | cons e t ih =>
      obtain ⟨k, v⟩ := e
      simp only [nodes, Table.find?, List.map_cons, List.lookup_cons] at ih ⊢
      cases key == k with
      | true => rfl
      | false => exact ih

theorem find?_append (t later : Table) (key : String) :
    Table.find? (t ++ later) key = (Table.find? t key).or (Table.find? later key) :=
  List.lookup_append

theorem put_append {t : Table} {key : String} (h : t.find? key = none) (later : Table)
    (node : Node) : Table.put (t ++ later) key node = t ++ Table.put later key node := by
  induction t with
  | nil => rfl
  | cons e t ih =>
      rw [Table.find?, List.lookup_cons] at h
      split at h
      · cases h
      · rename_i hne
        have hkey : e.1 ≠ key := by
          rintro rfl
          simp at hne
        rw [List.cons_append, Table.put, if_neg hkey, ih h]
        rfl

theorem insertAll?_append {t : Entries} {before : Table} (h : (t.map Prod.fst).Nodup)
    (hnew : ∀ e ∈ t, before.find? e.1 = none) :
    Table.insertAll? before (pairs t) = some (before ++ nodes t) := by
  induction t generalizing before with
  | nil => simp [Table.insertAll?, pairs, nodes]
  | cons e t ih =>
      rw [List.map_cons, List.nodup_cons] at h
      rw [List.forall_mem_cons] at hnew
      have hput : before.put e.1 e.2.node = before ++ [(e.1, e.2.node)] := by
        have happend := put_append hnew.1 [] e.2.node
        rw [List.append_nil] at happend
        exact happend
      have hinsert : before.insert? e.2.node [e.1] = some (before ++ [(e.1, e.2.node)]) := by
        rw [Table.insert?, hnew.1, hput]
        rfl
      have hrest : ∀ d ∈ t, Table.find? (before ++ [(e.1, e.2.node)]) d.1 = none := by
        intro d hd
        have hne : d.1 ≠ e.1 := by
          intro heq
          apply h.1
          rw [← heq]
          exact List.mem_map_of_mem hd
        rw [find?_append, hnew.2 d hd, Option.none_or, Table.find?, List.lookup_cons,
          beq_eq_false_iff_ne.mpr hne]
        rfl
      have hlater := ih h.2 hrest
      simp only [Table.insertAll?, pairs, List.map_cons, List.foldlM_cons, hinsert,
        Option.bind_eq_bind, Option.bind_some] at hlater ⊢
      rw [hlater, nodes, nodes, List.map_cons, List.append_assoc]
      rfl

/-- Entries without a repeated key become a table as they are. -/
theorem insertAll?_pairs {t : Entries} (h : (t.map Prod.fst).Nodup) :
    Table.insertAll? [] (pairs t) = some (nodes t) :=
  insertAll?_append h fun _ _ => rfl

/-- The tables of the relays under their key, if there are any. -/
def elements : List Entries → Table
  | [] => []
  | relays => [("turn_servers", .tables (relays.map nodes))]

/-- The table of a text whose relays up to a certain one have been added. -/
def tableUpTo (preamble allocator : Entries) (relays : List Entries) : Table :=
  nodes preamble ++ [("allocator", .table .declared (nodes allocator ++ elements relays))]

section Sections

variable {preamble allocator : Entries} (hpreamble : preamble.lookup "allocator" = none)

include hpreamble

theorem find?_tableUpTo (relays : List Entries) :
    (tableUpTo preamble allocator relays).find? "allocator" =
      some (.table .declared (nodes allocator ++ elements relays)) := by
  rw [tableUpTo, find?_append, find?_nodes, hpreamble]
  rfl

theorem addSection?_allocator (hnodup : (allocator.map Prod.fst).Nodup) :
    Table.addSection? (nodes preamble) ⟨.table ["allocator"], pairs allocator⟩ =
      some (tableUpTo preamble allocator []) := by
  have hnone : (nodes preamble).find? "allocator" = none := by
    rw [find?_nodes, hpreamble]
    rfl
  have hput := put_append hnone [] (.table .declared (nodes allocator))
  rw [List.append_nil] at hput
  simp only [Table.addSection?, Table.alter?, hnone, insertAll?_pairs hnodup, Option.map_some, hput,
    tableUpTo, elements, List.append_nil]
  rfl

theorem addSection?_relay (hallocator : allocator.lookup "turn_servers" = none)
    (relays : List Entries) {t : Entries} (hnodup : (t.map Prod.fst).Nodup) :
    Table.addSection? (tableUpTo preamble allocator relays)
      ⟨.element ["allocator", "turn_servers"], pairs t⟩ =
        some (tableUpTo preamble allocator (relays ++ [t])) := by
  have hnone : (nodes preamble).find? "allocator" = none := by
    rw [find?_nodes, hpreamble]
    rfl
  have hinner : (nodes allocator).find? "turn_servers" = none := by
    rw [find?_nodes, hallocator]
    rfl
  have hput : ∀ node, (tableUpTo preamble allocator relays).put "allocator" node =
      nodes preamble ++ [("allocator", node)] := by
    intro node
    rw [tableUpTo, put_append hnone]
    rfl
  simp only [Table.addSection?, Table.alter?, find?_tableUpTo hpreamble, find?_append, hinner,
    Option.none_or]
  cases relays with
  | nil =>
      simp only [elements, Table.find?, List.lookup_nil, insertAll?_pairs hnodup, Option.map_some,
        put_append hinner, hput]
      rfl
  | cons r relays =>
      have hfound : (elements (r :: relays)).find? "turn_servers" =
          some (.tables ((r :: relays).map nodes)) := rfl
      simp only [hfound, insertAll?_pairs hnodup, Option.map_some, put_append hinner, hput]
      simp [tableUpTo, elements, Table.put]

theorem foldlM_relays (hallocator : allocator.lookup "turn_servers" = none)
    (before relays : List Entries) (hnodup : ∀ t ∈ relays, (t.map Prod.fst).Nodup) :
    (relays.map fun t => (⟨.element ["allocator", "turn_servers"], pairs t⟩ : Section)).foldlM
      Table.addSection? (tableUpTo preamble allocator before) =
        some (tableUpTo preamble allocator (before ++ relays)) := by
  induction relays generalizing before with
  | nil =>
      rw [List.append_nil]
      rfl
  | cons t relays ih =>
      rw [List.forall_mem_cons] at hnodup
      rw [List.map_cons, List.foldlM_cons, addSection?_relay hpreamble hallocator before hnodup.1,
        Option.bind_eq_bind, Option.bind_some, ih _ hnodup.2, List.append_assoc,
        List.singleton_append]

end Sections

/-- What the document of some contents denotes. -/
theorem Contents.table (l : Contents) (hpreamble : (l.preamble.map Prod.fst).Nodup)
    (hfree : l.preamble.lookup "allocator" = none) (hnodup : (l.allocator.map Prod.fst).Nodup)
    (hrelays : l.relays = [] ∨ l.allocator.lookup "turn_servers" = none)
    (hnodups : ∀ t ∈ l.relays, (t.map Prod.fst).Nodup) :
    l.document.table? = some (tableUpTo l.preamble l.allocator l.relays) := by
  simp only [Document.table?, Contents.document, insertAll?_pairs hpreamble, Option.bind_eq_bind,
    Option.bind_some, List.foldlM_cons, addSection?_allocator hfree hnodup]
  rcases hrelays with hnil | hnone
  · rw [hnil]
    rfl
  · exact foldlM_relays hfree hnone [] l.relays hnodups

/-- The settings in a text are those in the table that it denotes, if all its values are read. -/
theorem Contents.WrittenAs.parse {l : Contents} {text : String} (h : l.WrittenAs text)
    (hfits : ∀ t ∈ l.preamble :: l.allocator :: l.relays, ∀ e ∈ t, e.2.Fits)
    (htable : l.document.table? = some (tableUpTo l.preamble l.allocator l.relays))
    (hfree : l.preamble.lookup "allocator" = none) :
    Settings.parse? text =
      Settings.ofNode? (.table .declared (nodes l.allocator ++ elements l.relays)) := by
  simp only [Settings.parse?, Table.ofText?, h.document hfits, htable, Option.bind_eq_bind,
    Option.bind_some, Settings.ofTable?, find?_tableUpTo hfree, optionalField]

end CandidatePool.Layout
