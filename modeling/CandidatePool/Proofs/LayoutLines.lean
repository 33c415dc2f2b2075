import CandidatePool.Proofs.LayoutReading
/-!
Lines in the layout are read one by one, and then they make up a document.  A whole text is read as
the lines that were written, empty ones included, unless one of its values is read as nothing.
-/

namespace CandidatePool.Layout

open Toml

variable {i a b r : List Char}

/-! ### One line -/

/-- What a line is read as, if its value is read as anything. -/
def Row.line? : Row → Option Line
  | .blank => some .blank
  | .entry key v => v.node?.map (.pair [key])
  | .allocator => some (.header (.table ["allocator"]))
  | .relay => some (.header (.element ["allocator", "turn_servers"]))

/-- A line ends here, or the whole text. -/
inductive Ends : List Char → List Char → Prop
  | line {i r : List Char} (h : LineEnd i r) : Ends i r
  | text {i : List Char} (h : TextEnd i) : Ends i []

theorem Ends.stops (h : Ends i r) : Stops i := by
  cases h with
  | line h => exact h.stops
  | text h => exact h.stops

theorem Ends.afterLine (h : Ends i r) : afterLine? i = some r := by
  cases h with
  | line h => exact h.afterLine
  | text h => exact h.afterLine

theorem Blanks.refl (r : List Char) : Blanks r r := ⟨[], List.forall_mem_nil _, rfl⟩

/-- Where a line ends without anything in it, the reader finds an empty line. -/
theorem Ends.readLine (h : Ends i r) : readLine? i = some (.blank, r) := by
  obtain ⟨a, hblanks, hend, hbody, hblank⟩ : ∃ a, Blanks i a ∧ Ends a r ∧
      readBody? a = some (.blank, a) ∧ ∀ c ∈ a.head?, isBlank c = false := by
    cases h with
    | line h =>
        obtain ⟨hblanks, hcomment, hbreak⟩ := h
        refine ⟨_, hblanks, .line ⟨.refl _, hcomment, hbreak⟩, ?_⟩
        cases hcomment with
        | none => cases hbreak <;> exact ⟨rfl, by rintro c ⟨⟩; decide⟩
        | some hbody => exact ⟨rfl, by rintro c ⟨⟩; decide⟩
    | text h =>
        obtain ⟨hblanks, hcomment⟩ := h
        refine ⟨_, hblanks, .text ⟨.refl _, hcomment⟩, ?_⟩
        cases hcomment with
        | none => exact ⟨rfl, by rintro c ⟨⟩⟩
        | some hbody => exact ⟨rfl, by rintro c ⟨⟩; decide⟩
  simp only [readLine?, hblanks.skip hblank, hbody, Option.bind_eq_bind, Option.bind_some,
    hend.afterLine]
  rfl

/-- The blanks in front of a path belong to it, and do not matter. -/
theorem PathText.skip {path : List String} (h : PathText i path r) :
    PathText (skipBlanks i) path r ∧ StartsKey (skipBlanks i) := by
  cases h with
  | last before h after =>
      rw [before.skip h.starts.not_blank]
      exact ⟨.last (.refl _) h after, h.starts⟩
  | more before h after later =>
      rw [before.skip h.starts.not_blank]
      exact ⟨.more (.refl _) h after later, h.starts⟩

theorem PathText.head_ne {path : List String} {c : Char} (h : PathText (c :: i) path r)
    (hblank : isBlank c = false) (hkey : isKeyChar c = false) : c = '"' := by
  obtain ⟨-, d, later, heq, hd⟩ := h.skip
  have hskip : skipBlanks (c :: i) = c :: i := by
    simp [skipBlanks, hblank]
  rw [hskip] at heq
  cases heq
  rcases hd with hd | hd
  · rw [hkey] at hd
    cases hd
  · exact hd

theorem ValueText.not_blank {v : Value} (h : ValueText i v r) :
    ∀ c ∈ i.head?, isBlank c = false := by
  cases h with
  | integer h =>
      obtain ⟨run, rfl, hne, hrun, -⟩ := h.run
      obtain ⟨c, later, rfl⟩ := List.exists_cons_of_ne_nil hne
      rintro d ⟨⟩
      rw [← Bool.not_eq_true]
      intro hblank
      have hbare := (hrun c List.mem_cons_self).1
      rcases isBlank_cases hblank with rfl | rfl <;> exact absurd hbare (by decide)
  | yes => rintro c ⟨⟩; decide
  | no => rintro c ⟨⟩; decide
  | string h =>
      obtain ⟨hbody⟩ := h
      rintro c ⟨⟩
      decide
  | strings h => rintro c ⟨⟩; decide

theorem readBody?_pair {text : List Char} (h : StartsKey text) :
    readBody? text = (readPair? (readValue? maxDepth) text).map fun ((path, value), rest) =>
      (.pair path value, rest) := by
  obtain ⟨c, later, rfl, hc⟩ := h
  have hnot : c ≠ '#' ∧ c ≠ '\n' ∧ c ≠ '\r' ∧ c ≠ '[' := by
    refine ⟨?_, ?_, ?_, ?_⟩ <;>
      · rintro rfl
        rcases hc with hc | hc <;> exact absurd hc (by decide)
  simp [readBody?, hnot]

theorem RowText.read {row : Row} (h : RowText i row a) (hend : Ends a r) :
    readLine? i = row.line?.map fun line => (line, r) := by
  have hends : ∀ c text, c = '=' ∨ c = ']' → EndsPath (c :: text) := by
    rintro c text hc d ⟨⟩
    rcases hc with rfl | rfl <;> decide
  cases h with
  | blank => exact hend.readLine
  | entry path blanks value =>
      rename_i rest b key v
      obtain ⟨hpath, hstarts⟩ := path.skip
      have hkey : readPath? maxDepth (skipBlanks i) = some ([key], '=' :: rest) :=
        hpath.read (hends '=' rest (.inl rfl)) (Nat.le_add_left 1 78)
      have hvalue : readValue? maxDepth b = v.node?.map fun node => (node, a) :=
        value.read hend.stops 78
      simp only [readLine?, readBody?_pair hstarts, readPair?, hkey, Option.bind_eq_bind,
        Option.bind_some, blanks.skip value.not_blank, hvalue, Row.line?]
      cases v.node? with
      | none => rfl
      | some node =>
          simp only [Option.map_some, Option.pure_def, Option.bind_some, hend.afterLine]
  | allocator blanks path =>
      rename_i rest
      have hskip : skipBlanks i = '[' :: rest := blanks.skip_cons rfl
      have hkeys : readPath? maxDepth rest = some (["allocator"], ']' :: a) :=
        path.read (hends ']' a (.inr rfl)) (Nat.le_add_left 1 78)
      have hheader : readHeader? rest = some (.table ["allocator"], a) := by
        unfold readHeader?
        split
        · exact absurd (path.head_ne (by decide) (by decide)) (by decide)
        · simp only [hkeys, Option.bind_eq_bind, Option.bind_some]
          rfl
      simp only [readLine?, hskip, readBody?, hheader, Option.map_some, Option.bind_eq_bind,
        Option.bind_some, hend.afterLine]
      rfl
  | relay blanks path =>
      rename_i rest
      have hskip : skipBlanks i = '[' :: '[' :: rest := blanks.skip_cons rfl
      have hkeys : readPath? maxDepth rest =
          some (["allocator", "turn_servers"], ']' :: ']' :: a) :=
        path.read (hends ']' (']' :: a) (.inr rfl)) (Nat.le_add_left 2 77)
      have hheader : readHeader? ('[' :: rest) =
          some (.element ["allocator", "turn_servers"], a) := by
        simp only [readHeader?, hkeys, Option.bind_eq_bind, Option.bind_some]
        rfl
      simp only [readLine?, hskip, readBody?, hheader, Option.map_some, Option.bind_eq_bind,
        Option.bind_some, hend.afterLine]
      rfl

/-! ### Whole texts -/

theorem KeyText.length_le {key : String} (h : KeyText i key r) : r.length ≤ i.length := by
  cases h with
  | bare hne h =>
      rw [List.length_append]
      exact Nat.le_add_left ..
  | quoted h => exact Nat.le_of_lt h.length_lt

theorem PathText.length_le {path : List String} (h : PathText i path r) :
    r.length ≤ i.length := by
  induction h with
  | last before h after =>
      exact Nat.le_trans after.length_le (Nat.le_trans h.length_le before.length_le)
  | more before h after later ih =>
      have hpoint := Nat.le_trans after.length_le (Nat.le_trans h.length_le before.length_le)
      exact Nat.le_trans ih (Nat.le_of_succ_le hpoint)

theorem ValueText.length_le {v : Value} (h : ValueText i v r) : r.length ≤ i.length := by
  cases h with
  | integer h =>
      obtain ⟨run, rfl, -⟩ := h.run
      rw [List.length_append]
      exact Nat.le_add_left ..
  | yes =>
      rw [List.length_append]
      exact Nat.le_add_left ..
  | no =>
      rw [List.length_append]
      exact Nat.le_add_left ..
  | string h => exact Nat.le_of_lt h.length_lt
  | strings h =>
      have hitems := h.length_lt
      rw [List.length_cons]
      omega

theorem RowText.length_le {row : Row} (h : RowText i row a) : a.length ≤ i.length := by
  cases h with
  | blank => exact Nat.le_refl _
  | entry path blanks value =>
      have hequals := Nat.le_of_succ_le path.length_le
      exact Nat.le_trans value.length_le (Nat.le_trans blanks.length_le hequals)
  | allocator blanks path =>
      have hpath := Nat.le_of_succ_le path.length_le
      exact Nat.le_trans hpath (Nat.le_of_succ_le blanks.length_le)
  | relay blanks path =>
      have hpath := Nat.le_of_succ_le (Nat.le_of_succ_le path.length_le)
      exact Nat.le_trans hpath (Nat.le_of_succ_le (Nat.le_of_succ_le blanks.length_le))

/-- Each line but the last has a line break, and the last is not empty. -/
theorem RowsText.length_le {rows : List Row} (h : RowsText i rows) : rows.length ≤ i.length := by
  induction h with
  | nil => exact Nat.le_refl _
  | last hne h ending => exact List.length_pos_iff.mpr hne
  | line h ending later ih =>
      have hlater := Nat.lt_of_le_of_lt ih ending.length_lt
      exact Nat.succ_le_of_lt (Nat.lt_of_lt_of_le hlater h.length_le)

theorem RowsText.read {rows : List Row} (h : RowsText i rows) {fuel : Nat}
    (hfuel : rows.length ≤ fuel) : readLines? fuel i = rows.mapM Row.line? := by
  have hstep : ∀ {i a r : List Char} {row : Row} {rows : List Row} {fuel : Nat}, i ≠ [] →
      RowText i row a → Ends a r → readLines? fuel r = rows.mapM Row.line? →
      readLines? (fuel + 1) i = (row :: rows).mapM Row.line? := by
    intro i a r row rows fuel hne h hend hrest
    rw [readLines?.eq_3 i fuel hne, h.read hend, List.mapM_cons]
    cases row.line? with
    | none => rfl
    | some line => simp only [Option.map_some, Option.bind_eq_bind, Option.bind_some, hrest]
  induction h generalizing fuel with
  | nil => simp [readLines?]
  | last hne h ending =>
      obtain ⟨fuel, rfl⟩ := Nat.exists_eq_add_of_le' hfuel
      exact hstep hne h (.text ending) (by simp [readLines?])
  | line h ending later ih =>
      rename_i i a b row rows
      obtain ⟨fuel, rfl⟩ := Nat.exists_eq_add_of_le' hfuel
      have hne : i ≠ [] := by
        rintro rfl
        have hlength := h.length_le
        have hbreak := ending.length_lt
        rw [List.length_nil] at hlength
        omega
      exact hstep hne h (.line ending) (ih (Nat.le_add_left ..))

/-- No line starts with a byte order mark. -/
theorem RowText.no_mark {row : Row} (h : RowText ('\ufeff' :: i) row a) (hend : Ends a r) :
    False := by
  have hskip : skipBlanks ('\ufeff' :: i) = '\ufeff' :: i := rfl
  cases h with
  | blank =>
      cases hend with
      | line h =>
          have hbreak := h.skip
          rw [hskip] at hbreak
          cases hbreak
      | text h =>
          have hnil := h.skip
          rw [hskip] at hnil
          cases hnil
  | entry path blanks value => exact absurd (path.head_ne (by decide) (by decide)) (by decide)
  | allocator blanks path =>
      have hbracket := blanks.skip_cons rfl
      rw [hskip] at hbracket
      cases hbracket
  | relay blanks path =>
      have hbracket := blanks.skip_cons rfl
      rw [hskip] at hbracket
      cases hbracket

theorem RowsText.document {rows : List Row} (h : RowsText i rows) :
    Document.ofText? i = (rows.mapM Row.line?).map Document.ofLines := by
  have hread := h.read h.length_le
  unfold Document.ofText?
  split
  · cases h with
    | last hne h ending => exact (h.no_mark (.text ending)).elim
    | line h ending later => exact (h.no_mark (.line ending)).elim
  · simp only [hread]

end CandidatePool.Layout
