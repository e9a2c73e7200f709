import Mathlib.Logic.Relation
import TwoPhase.Proofs.Plugin.Grammar
import TwoPhase.Text.Cut

/-!
# Rewording a manifest

What a manifest names does not depend on how it is laid out.  Lines that hold nothing can be put in,
comments and blanks can be added to a line, and lines may end in either way.  A reader that accepts
the one text accepts the other, with the same entries.  And the entries alone, one on a line, are a
manifest again, with these entries.

## Strategy

All that counts is what the lines hold (`holdings`): it decides whether a text is accepted, and with
which entries.  A line with its ends fixed can be exchanged for another one that holds the same
(`exists_place`), and each way of rewording comes down to such an exchange.

## Main results

* `Rewording.holdings_eq` — a step of rewording changes nothing that counts.
* `parse_joined` — the entries are a manifest of themselves.
* `accepts_the_grammar` — what is accepted and reported, and what does not matter.
-/

namespace TwoPhase.Manifest

open Relation (ReflTransGen)
open Text (isBlank lines)

variable {before line line' idle after s t : List Char} {service text : String} {m : Manifest}

/-! ## Rewording -/

/-- A line starts behind this text. -/
def LineStart (before : List Char) : Prop := before = [] ∨ ∃ earlier, before = earlier ++ ['\n']

/-- A line ends in front of this text. -/
def LineEnd (after : List Char) : Prop :=
  after = [] ∨ (∃ rest, after = '\n' :: rest) ∨ ∃ rest, after = '\r' :: '\n' :: rest

/-- A line with nothing on it, or with a comment alone. -/
def Idle (line : List Char) : Prop :=
  ∃ blanks comment, line = blanks ++ comment ∧ (∀ c ∈ blanks, isBlank c = true) ∧
    (comment = [] ∨ ∃ rest, comment = '#' :: rest)

/-- Another way to write a line. -/
inductive Dressed : List Char → List Char → Prop
  | comment (line comment : List Char) : Dressed line (line ++ '#' :: comment)
  | blanks {left right : List Char} (hLeft : ∀ c ∈ left, isBlank c = true)
      (hRight : ∀ c ∈ right, isBlank c = true) (line : List Char) :
      Dressed line (left ++ line ++ right)
  /-- Blanks between what the line holds and the comment. -/
  | between {blanks : List Char} (hBlanks : ∀ c ∈ blanks, isBlank c = true)
      (line comment : List Char) :
      Dressed (line ++ '#' :: comment) (line ++ blanks ++ '#' :: comment)

/-- Another way to write a manifest. -/
inductive Rewording : List Char → List Char → Prop
  /-- One idle line more in front of another line, or at the end. -/
  | insert {before idle : List Char} (hStart : LineStart before) (hIdle : Idle idle)
      (hLine : '\n' ∉ idle) (after : List Char) :
      Rewording (before ++ after) (before ++ (idle ++ '\n' :: after))
  /-- One idle line more behind an end that no line feed marks. -/
  | append {idle : List Char} (hIdle : Idle idle) (hLine : '\n' ∉ idle) (before : List Char) :
      Rewording before (before ++ '\n' :: idle)
  | dress {before line line' after : List Char} (hStart : LineStart before) (hEnd : LineEnd after)
      (hLine : '\n' ∉ line) (hLine' : '\n' ∉ line') (hDressed : Dressed line line') :
      Rewording (before ++ (line ++ after)) (before ++ (line' ++ after))
  /-- The other way to end a line. -/
  | carriageReturn (before after : List Char) :
      Rewording (before ++ '\n' :: after) (before ++ '\r' :: '\n' :: after)

/-! ## What counts -/

theorem holdings_append (ls ls' : List (List Char)) :
    holdings (ls ++ ls') = holdings ls ++ holdings ls' := by
  simp [holdings]

theorem holdings_singleton_congr (h : content line' = content line) :
    holdings [line'] = holdings [line] := by
  simp [holdings, h]

theorem holdings_singleton_of_idle (h : Idle idle) : holdings [idle] = [] := by
  obtain ⟨blanks, comment, rfl, hBlanks, hComment⟩ := h
  have hNothing : content (blanks ++ comment) = [] := by
    rw [content_blanks_append hBlanks]
    rcases hComment with rfl | ⟨rest, rfl⟩
    · rfl
    · exact content_append_comment [] rest
  exact holdings_cons_of_nil hNothing

theorem Dressed.content_eq (h : Dressed line line') : content line' = content line := by
  cases h with
  | comment => exact content_append_comment line _
  | blanks hLeft hRight => rw [List.append_assoc, content_blanks_append hLeft,
      content_append_blanks hRight]
  | between hBlanks line comment => rw [content_append_comment, content_append_comment,
      content_append_blanks hBlanks]

theorem holdings_sameLines {pieces ls : List (List Char)} (h : Text.SameLines pieces ls) :
    holdings pieces = holdings ls := by
  induction h with
  | nil => rfl
  | behind => rfl
  | cons hLine _ ih =>
      rw [← List.singleton_append, holdings_append, ih,
        holdings_singleton_congr (content_of_piece hLine), ← holdings_append, List.singleton_append]

/-- For what lines hold, it is enough to cut at line feeds. -/
theorem holdings_lines (s : List Char) : holdings (lines s) = holdings (s.splitOn '\n') :=
  (holdings_sameLines (Text.sameLines s)).symm

/-! ## A line in its place -/

theorem LineStart.splitOn_append (h : LineStart before) :
    ∃ earlier, ∀ s, (before ++ s).splitOn '\n' = earlier ++ s.splitOn '\n' := by
  rcases h with rfl | ⟨earlier, rfl⟩
  · exact ⟨[], fun _ => rfl⟩
  · refine ⟨earlier.splitOn '\n', fun s => ?_⟩
    rw [List.append_assoc]
    exact List.splitOn_append_cons_self earlier s

theorem LineEnd.holdings_append (h : LineEnd after) : ∃ later, ∀ line, '\n' ∉ line →
    holdings ((line ++ after).splitOn '\n') = holdings [line] ++ later := by
  rcases h with rfl | ⟨rest, rfl⟩ | ⟨rest, rfl⟩
  · refine ⟨[], fun line hLine => ?_⟩
    rw [List.append_nil, List.append_nil, List.splitOn_eq_singleton hLine]
  · refine ⟨holdings (rest.splitOn '\n'), fun line hLine => ?_⟩
    rw [List.splitOn_append_cons_self_of_not_mem hLine, ← Manifest.holdings_append,
      List.singleton_append]
  · refine ⟨holdings (rest.splitOn '\n'), fun line hLine => ?_⟩
    have hReturn : '\n' ∉ line ++ ['\r'] := by simp [hLine]
    rw [List.append_cons, List.splitOn_append_cons_self_of_not_mem hReturn,
      ← holdings_singleton_congr (content_append_return line), ← Manifest.holdings_append,
      List.singleton_append]

/-- **A line in its place** adds what it holds to what the lines around it hold. -/
theorem exists_place (hStart : LineStart before) (hEnd : LineEnd after) :
    ∃ earlier later, ∀ line, '\n' ∉ line →
      holdings (lines (before ++ (line ++ after))) = earlier ++ holdings [line] ++ later := by
  obtain ⟨earlier, hBefore⟩ := hStart.splitOn_append
  obtain ⟨later, hAfter⟩ := hEnd.holdings_append
  refine ⟨holdings earlier, later, fun line hLine => ?_⟩
  rw [holdings_lines, hBefore, holdings_append, hAfter line hLine, List.append_assoc]

/-- Every text ends in a line that may go on. -/
theorem exists_lineStart (s : List Char) :
    ∃ before line, s = before ++ line ∧ LineStart before ∧ '\n' ∉ line := by
  cases hCut : Text.cutLast '\n' s with
  | none => exact ⟨[], s, rfl, .inl rfl, Text.cutLast_eq_none_iff.1 hCut⟩
  | some parts =>
      obtain ⟨hSplit, hLine⟩ := Text.cutLast_eq_some_iff.1 hCut
      have hAll : s = parts.1 ++ ['\n'] ++ parts.2 := by rw [hSplit, List.append_cons]
      exact ⟨parts.1 ++ ['\n'], parts.2, hAll, .inr ⟨parts.1, rfl⟩, hLine⟩

/-- **A step of rewording changes nothing that counts.** -/
theorem Rewording.holdings_eq (h : Rewording s t) : holdings (lines t) = holdings (lines s) := by
  cases h with
  | @insert before idle hStart hIdle hLine after =>
      obtain ⟨earlier, hBefore⟩ := hStart.splitOn_append
      rw [holdings_lines, holdings_lines, hBefore, hBefore,
        List.splitOn_append_cons_self_of_not_mem hLine, holdings_append, holdings_append,
        ← List.singleton_append, holdings_append, holdings_singleton_of_idle hIdle, List.nil_append]
  | @append idle hIdle hLine before =>
      rw [holdings_lines, holdings_lines, List.splitOn_append_cons_self,
        List.splitOn_eq_singleton hLine, holdings_append, holdings_singleton_of_idle hIdle,
        List.append_nil]
  | dress hStart hEnd hLine hLine' hDressed =>
      obtain ⟨earlier, later, hPlace⟩ := exists_place hStart hEnd
      rw [hPlace _ hLine, hPlace _ hLine', holdings_singleton_congr hDressed.content_eq]
  | carriageReturn before after =>
      obtain ⟨before, line, rfl, hStart, hLine⟩ := exists_lineStart before
      obtain ⟨earlier, later, hPlace⟩ := exists_place hStart (.inr (.inl ⟨after, rfl⟩))
      have hReturn : '\n' ∉ line ++ ['\r'] := by simp [hLine]
      have hSame := holdings_singleton_congr (content_append_return line)
      rw [List.append_assoc, List.append_assoc, hPlace line hLine, ← hSame, ← hPlace _ hReturn,
        List.append_assoc]
      rfl

theorem holdings_eq_of_reworded (h : ReflTransGen Rewording s t) :
    holdings (lines t) = holdings (lines s) := by
  induction h with
  | refl => rfl
  | tail _ hStep ih => rw [hStep.holdings_eq, ih]

/-! ## What is read -/

theorem mem_holdings {ls : List (List Char)} {part : List Char} :
    part ∈ holdings ls ↔ (∃ line ∈ ls, content line = part) ∧ part ≠ [] := by
  simp [holdings]

theorem readable_iff {ls : List (List Char)} :
    (∀ line ∈ ls, Readable line) ↔ ∀ part ∈ holdings ls, ImplementationName part := by
  constructor
  · intro h part hPart
    obtain ⟨⟨line, hLine, rfl⟩, hSome⟩ := mem_holdings.1 hPart
    exact (h line hLine).resolve_left hSome
  · intro h line hLine
    by_cases hNothing : content line = []
    · exact .inl hNothing
    · exact .inr (h (content line) (mem_holdings.2 ⟨⟨line, hLine, rfl⟩, hNothing⟩))

/-- A text is read as its lines hold. -/
theorem parse_congr {text' : String}
    (h : holdings (lines text'.toList) = holdings (lines text.toList)) :
    parse service text = .ok m ↔ parse service text' = .ok m := by
  rw [parse_eq_ok_iff, parse_eq_ok_iff, readable_iff, readable_iff, named, named, h]

/-! ## Entries as a manifest -/

theorem mem_intercalate {sep : List Char} {names : List (List Char)} {c : Char}
    (h : c ∈ sep.intercalate names) : c ∈ sep ∨ ∃ name ∈ names, c ∈ name := by
  induction names with
  | nil => exact absurd h List.not_mem_nil
  | cons name rest ih =>
      cases rest with
      | nil => exact .inr ⟨name, List.mem_cons_self, by simpa using h⟩
      | cons next rest =>
          rw [List.intercalate_cons_cons, List.mem_append, List.mem_append] at h
          rcases h with (hName | hSep) | hRest
          · exact .inr ⟨name, List.mem_cons_self, hName⟩
          · exact .inl hSep
          · exact (ih hRest).imp_right fun ⟨other, hOther, hMem⟩ =>
              ⟨other, List.mem_cons_of_mem name hOther, hMem⟩

/-- The characters of an identifier stand between the digits and the small letters. -/
theorem Identifier.bounds (h : Identifier s) {c : Char} (hc : c ∈ s) : '0' ≤ c ∧ c ≤ 'z' := by
  obtain ⟨first, rest, rfl, hStart, hParts⟩ := h
  have hAny : c = '_' ∨ 'A' ≤ c ∧ c ≤ 'Z' ∨ 'a' ≤ c ∧ c ≤ 'z' ∨ '0' ≤ c ∧ c ≤ '9' := by
    rcases List.mem_cons.1 hc with rfl | hRest
    · exact hStart.imp_right (Or.imp_right Or.inl)
    · exact hParts c hRest
  rcases hAny with rfl | ⟨hLow, hHigh⟩ | ⟨hLow, hHigh⟩ | ⟨hLow, hHigh⟩
  · decide
  · exact ⟨Char.le_trans (by decide) hLow, Char.le_trans hHigh (by decide)⟩
  · exact ⟨Char.le_trans (by decide) hLow, hHigh⟩
  · exact ⟨hLow, Char.le_trans hHigh (by decide)⟩

theorem ImplementationName.bounds (h : ImplementationName s) {c : Char} (hc : c ∈ s) :
    '0' ≤ c ∧ c ≤ 'z' := by
  obtain ⟨names, _, hNames, rfl⟩ := h
  rcases mem_intercalate hc with hColon | ⟨name, hName, hMem⟩
  · obtain rfl : c = ':' := by simpa using hColon
    decide
  · exact (hNames name hName).bounds hMem

theorem ImplementationName.ne_nil (h : ImplementationName s) : s ≠ [] := by
  rintro rfl
  exact absurd (isImplementationPath_iff.2 h) (by decide)

theorem not_blank_of_bounds {c : Char} (h : '0' ≤ c ∧ c ≤ 'z') : isBlank c = false := by
  obtain ⟨hLow, hHigh⟩ : 48 ≤ c.toNat ∧ c.toNat ≤ 122 := h
  simp [isBlank, Text.blankRanges]
  omega

/-- A name is all that its line holds. -/
theorem ImplementationName.content_eq (h : ImplementationName s) : content s = s := by
  have hWhole : s.takeWhile (· != '#') = s := by
    rw [List.takeWhile_eq_self_iff]
    intro c hc
    rw [bne_iff_ne]
    rintro rfl
    exact absurd (h.bounds hc) (by decide)
  rw [content, hWhole]
  exact Text.trim_eq_self
    (fun c hc => not_blank_of_bounds (h.bounds (List.mem_of_mem_head? hc)))
    (fun c hc => not_blank_of_bounds (h.bounds (List.mem_of_getLast? hc)))

theorem ImplementationName.no_feed (h : ImplementationName s) : '\n' ∉ s :=
  fun hFeed => absurd (h.bounds hFeed) (by decide)

theorem holdings_of_names {names : List (List Char)}
    (h : ∀ name ∈ names, ImplementationName name) : holdings names = names := by
  have hContent : names.map content = names :=
    (List.map_congr_left fun name hName => (h name hName).content_eq).trans (List.map_id' names)
  rw [holdings, hContent]
  exact List.filter_eq_self.2 fun name hName => decide_eq_true (h name hName).ne_nil

/-- **Names with line feeds between them** are held by the lines one after the other. -/
theorem holdings_joined {names : List (List Char)} (h : ∀ name ∈ names, ImplementationName name) :
    holdings (lines (['\n'].intercalate names)) = names := by
  cases names with
  | nil => rfl
  | cons name rest =>
      have hFeeds : ∀ other ∈ name :: rest, '\n' ∉ other := fun other hOther =>
        (h other hOther).no_feed
      rw [holdings_lines, List.splitOn_intercalate '\n' hFeeds (List.cons_ne_nil name rest)]
      exact holdings_of_names h

/-- What lines name that can be read: names, and none of them twice. -/
theorem named_spec {ls : List (List Char)} (h : ∀ line ∈ ls, Readable line) :
    (∀ entry ∈ named ls, ImplementationName entry.toList) ∧ (named ls).Nodup := by
  constructor
  · intro entry hEntry
    rw [named, List.mem_eraseDups, List.mem_map] at hEntry
    obtain ⟨part, hPart, rfl⟩ := hEntry
    rw [String.toList_ofList]
    exact readable_iff.1 h part hPart
  · rw [named, ← Order.distinct_eq_eraseDups]
    exact Order.nodup_distinct _

/-- **The entries are a manifest of themselves.** -/
theorem parse_joined (h : parse service text = .ok m) (service' : String) :
    parse service' ("\n".intercalate m.entries) = .ok ⟨service', m.entries⟩ := by
  obtain ⟨hReadable, rfl⟩ := parse_eq_ok_iff.1 h
  obtain ⟨hNames, hNodup⟩ := named_spec hReadable
  generalize named (lines text.toList) = entries at hNames hNodup ⊢
  have hNames' : ∀ name ∈ entries.map String.toList, ImplementationName name :=
    List.forall_mem_map.2 hNames
  have hHoldings : holdings (lines ("\n".intercalate entries).toList) =
      entries.map String.toList := by
    rw [String.toList_intercalate]
    exact holdings_joined hNames'
  have hEntries : named (lines ("\n".intercalate entries).toList) = entries := by
    have hText : String.ofList ∘ String.toList = id := funext fun _ => String.ofList_toList
    rw [named, hHoldings, List.map_map, hText, List.map_id, ← Order.distinct_eq_eraseDups,
      Order.distinct_eq_self hNodup]
  exact parse_eq_ok_iff.2 ⟨readable_iff.2 (hHoldings ▸ hNames'), by rw [hEntries]⟩

/-! ## The grammar -/

/-- **A manifest is what the grammar says.**  A text is accepted exactly if all its lines can be
read, with the names on them as entries.  Otherwise the first line that cannot be read is reported.
The entries are a manifest of themselves, and however often a text is reworded, it is accepted with
the same entries. -/
theorem accepts_the_grammar (service text : String) :
    (∀ m, parse service text = .ok m ↔
      (∀ line ∈ lines text.toList, Readable line) ∧ m = ⟨service, named (lines text.toList)⟩) ∧
    (∀ e, parse service text = .error e ↔
      ∃ before line, FirstUnreadable (lines text.toList) before line ∧
        e = .malformedManifest service (before.length + 1) (String.ofList (content line))) ∧
    (∀ m, parse service text = .ok m →
      ∀ service', parse service' ("\n".intercalate m.entries) = .ok ⟨service', m.entries⟩) ∧
    ∀ text' m, ReflTransGen Rewording text.toList text'.toList →
      (parse service text = .ok m ↔ parse service text' = .ok m) :=
  ⟨fun _ => parse_eq_ok_iff, fun _ => parse_eq_error_iff, fun _ h => parse_joined h,
    fun _ _ h => parse_congr (holdings_eq_of_reworded h)⟩

/-! ## A sample -/

/-- A comment line is put in front, and the first name gets blanks, a comment and another line
end. -/
theorem orchard_rewordings : ReflTransGen Rewording
    "pear::Tree\nplum\npear::Tree".toList
    "# trees\n  pear::Tree #!\r\nplum\npear::Tree".toList := by
  have hComment : Idle "# trees".toList :=
    ⟨[], "# trees".toList, by decide, nofun, .inr ⟨" trees".toList, by decide⟩⟩
  have hFront : LineStart "# trees\n".toList := .inr ⟨"# trees".toList, by decide⟩
  have hEnd : LineEnd "\nplum\npear::Tree".toList :=
    .inr (.inl ⟨"plum\npear::Tree".toList, by decide⟩)
  have hBefore : ∀ c ∈ "  ".toList, isBlank c = true := List.all_eq_true.1 (by decide)
  have hBehind : ∀ c ∈ " ".toList, isBlank c = true := List.all_eq_true.1 (by decide)
  have hInsert : Rewording "pear::Tree\nplum\npear::Tree".toList
      "# trees\npear::Tree\nplum\npear::Tree".toList :=
    .insert (.inl rfl) hComment (by decide) _
  have hBlanks : Rewording "# trees\npear::Tree\nplum\npear::Tree".toList
      "# trees\n  pear::Tree \nplum\npear::Tree".toList :=
    .dress hFront hEnd (by decide) (by decide) (.blanks hBefore hBehind "pear::Tree".toList)
  have hDress : Rewording "# trees\n  pear::Tree \nplum\npear::Tree".toList
      "# trees\n  pear::Tree #!\nplum\npear::Tree".toList :=
    .dress hFront hEnd (by decide) (by decide) (.comment "  pear::Tree ".toList "!".toList)
  have hReturn : Rewording "# trees\n  pear::Tree #!\nplum\npear::Tree".toList
      "# trees\n  pear::Tree #!\r\nplum\npear::Tree".toList :=
    .carriageReturn "# trees\n  pear::Tree #!".toList "plum\npear::Tree".toList
  exact .tail (.tail (.tail (.single hInsert) hBlanks) hDress) hReturn

/-- A text with a name twice is accepted, with the names on its lines.  A rewording of it and its
entries alone are accepted as well.  A text with five colons in a row is refused at that line. -/
theorem orchard_reworded :
    (∀ line ∈ lines "pear::Tree\nplum\npear::Tree".toList, Readable line) ∧
    named (lines "pear::Tree\nplum\npear::Tree".toList) = ["pear::Tree", "plum"] ∧
    parse "orchard" "# trees\n  pear::Tree #!\r\nplum\npear::Tree" =
      .ok ⟨"orchard", ["pear::Tree", "plum"]⟩ ∧
    parse "garden" "pear::Tree\nplum" = .ok ⟨"garden", ["pear::Tree", "plum"]⟩ ∧
    ∃ before line, FirstUnreadable (lines "plum\n#\npear:::::Tree # ?".toList) before line ∧
      before.length = 2 ∧ String.ofList (content line) = "pear:::::Tree" := by
  obtain ⟨hAccepted, -, hJoined, hReworded⟩ :=
    accepts_the_grammar "orchard" "pear::Tree\nplum\npear::Tree"
  have hParse : parse "orchard" "pear::Tree\nplum\npear::Tree" =
      .ok ⟨"orchard", ["pear::Tree", "plum"]⟩ := by decide +kernel
  have hRefused : parse "orchard" "plum\n#\npear:::::Tree # ?" =
      .error (.malformedManifest "orchard" 3 "pear:::::Tree") := by decide +kernel
  obtain ⟨hReadable, hEntries⟩ := (hAccepted _).1 hParse
  obtain ⟨before, line, hFirst, hReport⟩ := (accepts_the_grammar _ _).2.1 _ |>.1 hRefused
  injection hReport with _ hNumber hText
  exact ⟨hReadable, (Manifest.mk.inj hEntries).2.symm, (hReworded _ _ orchard_rewordings).1 hParse,
    hJoined _ hParse "garden", before, line, hFirst, (Nat.succ.inj hNumber).symm, hText.symm⟩

end TwoPhase.Manifest
