import ResourceGuard.Proofs.Toml.Standard.Values

/-! # Documents of one assignment a line

Where every line gives one name a value, and no two the same name, the document has these
names with these values in their order. It is refused if one of the values is none. Main
statement: the library can be relied on (`lawful_standard`). -/
namespace ResourceGuard.Toml

theorem Newline.lineEnd (newline : Newline) (more : List Char) :
    LineEnd (newline.text.toList ++ more) more := by
  cases newline with
  | lf => exact .lf more
  | crlf => exact .crlf more

/-! ## One line -/

section Line
variable (line : Line) {rest more : List Char}

theorem toList_text :
    line.text.toList ++ rest =
      line.key.text.toList ++ ' ' :: '=' :: ' ' :: (line.value.written.toList ++ rest) := by
  simp [Line.text]

theorem isBare_key : ∀ c ∈ line.key.text.toList, isBare c = true := by
  intro c hc
  rcases line.key.plain c hc with h | rfl
  · simp [isBare, h]
  · rfl

theorem exists_key_eq_cons :
    ∃ c cs, line.key.text.toList = c :: cs ∧ isBare c = true ∧
      ∀ other, isBare other = false → c ≠ other := by
  cases h : line.key.text.toList with
  | nil => exact absurd h line.key_ne_nil
  | cons c cs =>
    have hc := isBare_key line c (h ▸ List.mem_cons_self)
    refine ⟨c, cs, rfl, hc, fun other hother hsame => ?_⟩
    rw [← hsame, hc] at hother
    cases hother

theorem skipBlanks_key :
    skipBlanks (line.key.text.toList ++ rest) = line.key.text.toList ++ rest := by
  obtain ⟨c, cs, hkey, -, hc⟩ := exists_key_eq_cons line
  have hblank : isBlank c = false := by simp [isBlank, hc ' ' rfl, hc '\t' rfl]
  rw [hkey, List.cons_append, skipBlanks, List.dropWhile_cons_of_neg (by simp [hblank])]

theorem bareKey?_key :
    bareKey? (line.key.text.toList ++ ' ' :: rest) = some (line.key.text, ' ' :: rest) := by
  have htake : (line.key.text.toList ++ ' ' :: rest).takeWhile isBare = line.key.text.toList := by
    rw [List.takeWhile_append_of_pos (isBare_key line)]
    simp [show isBare ' ' = false from rfl]
  have hdrop : (line.key.text.toList ++ ' ' :: rest).dropWhile isBare = ' ' :: rest := by
    rw [List.dropWhile_append_of_pos (isBare_key line)]
    simp [show isBare ' ' = false from rfl]
  have hsome : line.key.text.toList.isEmpty = false := by
    rw [List.isEmpty_eq_false_iff]
    exact line.key_ne_nil
  simp [bareKey?, htake, hdrop, hsome]

theorem key?_key :
    key? (line.key.text.toList ++ ' ' :: rest) = some (line.key.text, ' ' :: rest) := by
  have hbare : bareKey? (line.key.text.toList ++ ' ' :: rest) = _ := bareKey?_key line
  obtain ⟨c, cs, hkey, -, hc⟩ := exists_key_eq_cons line
  rw [← hbare, hkey, List.cons_append, key?, if_neg (hc quote rfl), if_neg (hc apostrophe rfl)]

theorem path?_key (parts : Nat) :
    path? (parts + 1) (line.key.text.toList ++ ' ' :: '=' :: rest) =
      some (([], line.key.text), '=' :: rest) := by
  rw [path?, skipBlanks_key, key?_key]
  rfl

theorem assignment?_text (d : Document) (hrest : LineEnd rest more) :
    d.assignment? (line.text.toList ++ rest) = line.value.item?.bind fun item =>
      (d.entries.change? (Entries.assign? line.key.text item []) d.header).map fun entries =>
        ({ d with entries }, more) := by
  have hpath : path? maxParts (line.text.toList ++ rest) =
      some (([], line.key.text), '=' :: ' ' :: (line.value.written.toList ++ rest)) := by
    rw [toList_text]
    exact path?_key line 78
  have hvalue : value? maxDepth (skipBlanks (' ' :: (line.value.written.toList ++ rest))) = _ :=
    readsAs_written line.value hrest
  rw [Document.assignment?, hpath]
  simp only [Option.bind_eq_bind, Option.bind_some, sign?, if_pos, hvalue]
  cases line.value.item? with
  | none => rfl
  | some item =>
    simp only [Option.map_some, Option.bind_some, endLine?_of_lineEnd hrest]
    cases Entries.change? (Entries.assign? line.key.text item []) d.header d.entries <;> rfl

theorem line?_text (d : Document) :
    d.line? (line.text.toList ++ rest) = d.assignment? (line.text.toList ++ rest) := by
  obtain ⟨c, cs, hkey, -, hc⟩ := exists_key_eq_cons line
  rw [toList_text, hkey]
  rw [List.cons_append, Document.line?]
  all_goals
    intro _ h
    exact hc _ rfl (List.cons.inj h).1

theorem LineEnd.length_le {rest more : List Char} (h : LineEnd rest more) :
    more.length ≤ rest.length := by
  cases h <;> grind

/-- The rest of the document goes on from the entries that the line adds to. -/
theorem lines?_text {d : Document} (hheader : d.header = []) (hrest : LineEnd rest more) :
    d.lines? (line.text.toList ++ rest) =
      (line.value.item?.bind fun item => d.entries.add? line.key.text item).bind fun entries =>
        Document.lines? { d with entries } more := by
  have hstart : skipBlanks (line.text.toList ++ rest) = line.text.toList ++ rest := by
    rw [toList_text, skipBlanks_key]
  have hlength : more.length < (line.text.toList ++ rest).length := by
    have hle := hrest.length_le
    rw [toList_text]
    simp only [List.length_append, List.length_cons]
    omega
  have hline : d.line? (line.text.toList ++ rest) = _ :=
    (line?_text line d).trans (assignment?_text line d hrest)
  rw [hheader] at hline
  rw [Document.lines?, hstart]
  cases hcons : line.text.toList ++ rest with
  | nil => simp [hcons] at hlength
  | cons c cs =>
    rw [hcons] at hline hlength
    simp only [hline]
    cases line.value.item? with
    | none => rfl
    | some item =>
      simp only [Entries.change?, Entries.assign?, Option.bind_some]
      cases d.entries.add? line.key.text item with
      | none => rfl
      | some entries =>
        rw [hheader]
        exact if_pos hlength

end Line

/-! ## Whole documents -/

section Whole
variable (newline : Newline) (ended : Bool)

theorem lines?_nil (d : Document) : d.lines? [] = some d := by
  simp [Document.lines?, skipBlanks]

theorem lines?_ofLines_nil (d : Document) :
    d.lines? (ofLines newline ended []).toList = some d := by
  cases ended with
  | false => simp [ofLines, lines?_nil]
  | true =>
    cases newline <;>
      simp [ofLines, Newline.text, Document.lines?, skipBlanks, isBlank, Document.line?, endLine?,
        lineBreak?, newline?]

/-- What follows the first line is the document of the others. -/
theorem ofLines_cons (line : String) (lines : List String) :
    ∃ rest more, (ofLines newline ended (line :: lines)).toList = line.toList ++ rest ∧
      LineEnd rest more ∧
        ∀ d : Document, d.lines? more = d.lines? (ofLines newline ended lines).toList := by
  cases lines with
  | nil =>
    refine ⟨(if ended then newline.text else "").toList, [], by simp [ofLines], ?_, fun d => ?_⟩
    · cases ended with
      | false => exact .text
      | true => simpa using newline.lineEnd []
    · rw [lines?_nil, lines?_ofLines_nil]
  | cons next lines =>
    exact ⟨_, _, by simp [ofLines], newline.lineEnd _, fun d => rfl⟩

theorem add?_of_fresh {entries : Entries} {key : String} (h : entries.lookup key = none)
    (item : Item) : entries.add? key item = some (entries ++ [(key, item)]) := by
  rw [Entries.add?, h]

theorem lines?_ofLines {lines : List Line} (h : (lines.map (·.key.text)).Nodup)
    (entries : Entries) (hfresh : ∀ line ∈ lines, entries.lookup line.key.text = none) :
    Document.lines? { entries } (ofLines newline ended (lines.map Line.text)).toList =
      (lines.mapM Line.pair?).map fun more => { entries := entries ++ more } := by
  induction lines generalizing entries with
  | nil =>
    rw [List.map_nil, lines?_ofLines_nil]
    simp
  | cons line lines ih =>
    obtain ⟨hkey, hkeys⟩ := List.nodup_cons.mp h
    obtain ⟨hline, hlines⟩ := List.forall_mem_cons.mp hfresh
    obtain ⟨rest, more, htext, hrest, hmore⟩ :=
      ofLines_cons newline ended line.text (lines.map Line.text)
    rw [List.map_cons, htext, lines?_text line rfl hrest, List.mapM_cons, Line.pair?]
    cases line.value.item? with
    | none => rfl
    | some item =>
      have hfresh' : ∀ other ∈ lines,
          (entries ++ [(line.key.text, item)]).lookup other.key.text = none := by
        intro other hother
        have hne : (other.key.text == line.key.text) = false :=
          beq_false_of_ne fun hsame => hkey (List.mem_map.mpr ⟨other, hother, hsame⟩)
        simp [List.lookup_append, hlines other hother, List.lookup_cons, hne]
      simp only [Option.bind_some, add?_of_fresh hline, hmore, ih hkeys _ hfresh',
        Option.map_some, Option.bind_eq_bind]
      cases lines.mapM Line.pair? with
      | none => rfl
      | some entries => simp

theorem ofText?_of_unmarked {text : String} (h : text.toList.head? ≠ some '\ufeff') :
    ofText? text = (Document.lines? {} text.toList).map Document.entries := by
  unfold ofText?
  split
  · rename_i rest htext
    rw [htext] at h
    exact absurd rfl h
  · rfl

theorem head_ofLines_ne_mark (lines : List Line) :
    (ofLines newline ended (lines.map Line.text)).toList.head? ≠ some '\ufeff' := by
  cases lines with
  | nil => cases newline <;> cases ended <;> simp [ofLines, Newline.text]
  | cons line lines =>
    obtain ⟨rest, -, htext, -, -⟩ :=
      ofLines_cons newline ended line.text (lines.map Line.text)
    obtain ⟨c, cs, hkey, -, hc⟩ := exists_key_eq_cons line
    rw [List.map_cons, htext, toList_text, hkey]
    exact fun h => hc _ (by decide) (Option.some.inj h)

/-- **A document of one assignment a line has just these entries,** and none of them counts
if one of the values is no value. -/
theorem ofText?_ofLines {lines : List Line} (h : (lines.map (·.key.text)).Nodup) :
    ofText? (ofLines newline ended (lines.map Line.text)) = lines.mapM Line.pair? := by
  rw [ofText?_of_unmarked (head_ofLines_ne_mark newline ended lines),
    lines?_ofLines newline ended h [] fun _ _ => rfl, Option.map_map]
  exact Option.map_id'

end Whole

theorem lawful_standard : @Library.Lawful standard :=
  @Library.Lawful.mk standard fun newline ended _ => ofText?_ofLines newline ended

end ResourceGuard.Toml
