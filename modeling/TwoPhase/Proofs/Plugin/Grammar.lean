import Mathlib.Data.List.TakeWhile
import TwoPhase.Order.First
import TwoPhase.Plugin.Manifest

/-!
# The grammar of manifests

A manifest is read line by line.  What is left of a line without its comment and without the blanks
around it is either nothing or the name of an implementation: identifiers with `::` between them.
This module says so without the reader, and shows that the reader accepts exactly the texts of this
form, and names the first line that is not when it refuses one.

## Strategy

The reader cuts at line feeds alone and leaves a carriage return to be trimmed, while `lines` knows
both kinds of line ends.  The two agree line by line about what a line holds (`sameLines`), and that
is all the reader looks at (`parseLines_sameLines`).  Names are cut at double colons from the left;
an identifier has no colon, so the cut finds the identifiers that were joined
(`pathSegments_intercalate`).

## Main results

* `isImplementationPath_iff` — what the reader takes for a name is one.
* `parse_eq_ok_iff`, `parse_eq_error_iff` — what is accepted, and what is reported otherwise.
-/

namespace TwoPhase

open Text (isBlank trim)

/-! ## Lines -/

namespace Text

/-- The lines of a text.  A line ends with a line feed, which a carriage return may precede; the
last one need not end. -/
def lines : List Char → List (List Char)
  | [] => []
  | '\n' :: rest => [] :: lines rest
  | '\r' :: '\n' :: rest => [] :: lines rest
  | c :: rest =>
      match lines rest with
      | [] => [[c]]
      | line :: more => (c :: line) :: more

/-- Lines that were cut at line feeds alone, beside the lines of the same text: a carriage return
may be left at the end of a line, and behind the last line feed there may be a piece with nothing
in it. -/
inductive SameLines : List (List Char) → List (List Char) → Prop
  | nil : SameLines [] []
  | behind : SameLines [[]] []
  | cons {piece line : List Char} {pieces rest : List (List Char)}
      (hLine : piece = line ∨ piece = line ++ ['\r']) (hRest : SameLines pieces rest) :
      SameLines (piece :: pieces) (line :: rest)

/-- A character is put in front of the first line. -/
theorem splitOn_cons {c : Char} (hFeed : c ≠ '\n') {rest piece : List Char}
    {pieces : List (List Char)} (h : rest.splitOn '\n' = piece :: pieces) :
    (c :: rest).splitOn '\n' = (c :: piece) :: pieces := by
  rw [List.splitOn_cons_eq_if_modifyHead, if_neg (by simpa using hFeed), h]
  rfl

/-- **Cutting at line feeds finds the lines**, but for what a blank more or less can tell. -/
theorem sameLines (s : List Char) : SameLines (s.splitOn '\n') (lines s) := by
  induction s using lines.induct with
  | case1 => exact .behind
  | case2 rest ih =>
      rw [lines, List.splitOn_cons_eq_if_modifyHead]
      exact .cons (.inl rfl) ih
  | case3 rest ih =>
      have hReturn : '\n' ∉ ['\r'] := by decide
      have hCut : ('\r' :: '\n' :: rest).splitOn '\n' = ['\r'] :: rest.splitOn '\n' :=
        List.splitOn_append_cons_self_of_not_mem hReturn rest
      rw [lines, hCut]
      exact .cons (.inr rfl) ih
  | case4 c rest hFeed hReturn hNone ih =>
      rw [hNone] at ih
      generalize hPieces : rest.splitOn '\n' = pieces at ih
      cases ih with
      | nil => exact absurd hPieces (List.splitOn_ne_nil '\n' rest)
      | behind =>
          rw [splitOn_cons hFeed hPieces, lines, hNone]
          · exact .cons (.inl rfl) .nil
          · exact hFeed
          · exact hReturn
  | case5 c rest hFeed hReturn line more hSome ih =>
      rw [hSome] at ih
      generalize hPieces : rest.splitOn '\n' = pieces at ih
      cases ih with
      | cons hLine hRest =>
          rw [splitOn_cons hFeed hPieces, lines, hSome]
          · exact .cons (hLine.imp (congrArg (c :: ·)) (congrArg (c :: ·))) hRest
          · exact hFeed
          · exact hReturn

end Text

namespace Manifest

variable {line blanks name s : List Char}

/-! ## What a line holds -/

/-- A text is read up to the first `#`. -/
theorem content_append_comment (line comment : List Char) :
    content (line ++ '#' :: comment) = content line := by
  have hStop : (line ++ '#' :: comment).takeWhile (· != '#') = line.takeWhile (· != '#') := by
    induction line with
    | nil => rfl
    | cons c line ih => simp only [List.cons_append, List.takeWhile_cons, ih]
  rw [content, content, hStop]

theorem ne_hash_of_isBlank {c : Char} (h : isBlank c = true) : (c != '#') = true := by
  rw [bne_iff_ne]
  rintro rfl
  exact absurd h (by decide)

theorem content_blanks_append (h : ∀ c ∈ blanks, isBlank c = true) (line : List Char) :
    content (blanks ++ line) = content line := by
  rw [content, content, List.takeWhile_append_of_pos fun c hc => ne_hash_of_isBlank (h c hc),
    Text.trim_blanks_append h]

theorem content_append_blanks (h : ∀ c ∈ blanks, isBlank c = true) (line : List Char) :
    content (line ++ blanks) = content line := by
  rw [content, content, List.takeWhile_append]
  split
  · rename_i hWhole
    have hBlanks : blanks.takeWhile (· != '#') = blanks :=
      List.takeWhile_eq_self_iff.2 fun c hc => ne_hash_of_isBlank (h c hc)
    have hLine : line.takeWhile (· != '#') = line :=
      (List.takeWhile_prefix (· != '#')).eq_of_length hWhole
    rw [hBlanks, hLine, Text.trim_append_blanks h]
  · rfl

theorem content_append_return (line : List Char) : content (line ++ ['\r']) = content line :=
  content_append_blanks (List.all_eq_true.1 rfl) line

theorem content_of_piece {piece : List Char} (h : piece = line ∨ piece = line ++ ['\r']) :
    content piece = content line := by
  rcases h with rfl | rfl
  · rfl
  · exact content_append_return line

/-! ## Names of implementations -/

/-- An identifier: an ASCII letter or an underscore, and then such characters or digits. -/
def Identifier (s : List Char) : Prop :=
  ∃ c rest, s = c :: rest ∧ (c = '_' ∨ 'A' ≤ c ∧ c ≤ 'Z' ∨ 'a' ≤ c ∧ c ≤ 'z') ∧
    ∀ d ∈ rest, d = '_' ∨ 'A' ≤ d ∧ d ≤ 'Z' ∨ 'a' ≤ d ∧ d ≤ 'z' ∨ '0' ≤ d ∧ d ≤ '9'

/-- The name of an implementation: one identifier, or several with `::` between them. -/
def ImplementationName (s : List Char) : Prop :=
  ∃ names, names ≠ [] ∧ (∀ name ∈ names, Identifier name) ∧ s = [':', ':'].intercalate names

theorem isAlpha_iff {c : Char} : c.isAlpha = true ↔ 'A' ≤ c ∧ c ≤ 'Z' ∨ 'a' ≤ c ∧ c ≤ 'z' := by
  have hAlpha : c.isAlpha =
      (decide ('A' ≤ c ∧ c ≤ 'Z') || decide ('a' ≤ c) && decide (c ≤ 'z')) := rfl
  simp only [hAlpha, Bool.or_eq_true, Bool.and_eq_true, decide_eq_true_eq]

theorem isDigit_iff {c : Char} : c.isDigit = true ↔ '0' ≤ c ∧ c ≤ '9' := by
  have hDigit : c.isDigit = (decide ('0' ≤ c) && decide (c ≤ '9')) := rfl
  simp only [hDigit, Bool.and_eq_true, decide_eq_true_eq]

theorem isIdentifierStart_iff {c : Char} :
    isIdentifierStart c = true ↔ c = '_' ∨ 'A' ≤ c ∧ c ≤ 'Z' ∨ 'a' ≤ c ∧ c ≤ 'z' := by
  rw [isIdentifierStart, Bool.or_eq_true, beq_iff_eq, isAlpha_iff]

theorem isIdentifierPart_iff {c : Char} : isIdentifierPart c = true ↔
    c = '_' ∨ 'A' ≤ c ∧ c ≤ 'Z' ∨ 'a' ≤ c ∧ c ≤ 'z' ∨ '0' ≤ c ∧ c ≤ '9' := by
  have hAlphanum : c.isAlphanum = (c.isAlpha || c.isDigit) := rfl
  rw [isIdentifierPart, hAlphanum, Bool.or_eq_true, Bool.or_eq_true, beq_iff_eq, isAlpha_iff,
    isDigit_iff, or_assoc]

theorem isIdentifier_iff : isIdentifier s = true ↔ Identifier s := by
  cases s with
  | nil => simp [isIdentifier, Identifier]
  | cons c rest =>
      rw [isIdentifier, Bool.and_eq_true, List.all_eq_true, isIdentifierStart_iff]
      simp only [isIdentifierPart_iff]
      constructor
      · rintro ⟨hStart, hParts⟩
        exact ⟨c, rest, rfl, hStart, hParts⟩
      · rintro ⟨_, _, ⟨rfl, rfl⟩, hStart, hParts⟩
        exact ⟨hStart, hParts⟩

theorem Identifier.no_colon (h : Identifier s) : ':' ∉ s := by
  obtain ⟨c, rest, rfl, hStart, hParts⟩ := h
  intro hColon
  rcases List.mem_cons.1 hColon with rfl | hRest
  · exact absurd hStart (by decide)
  · exact absurd (hParts ':' hRest) (by decide)

/-- Names are cut at double colons from the left. -/
theorem pathSegments_append (hColon : ':' ∉ name) (rest : List Char) :
    pathSegments (name ++ ':' :: ':' :: rest) = name :: pathSegments rest := by
  induction name with
  | nil => rfl
  | cons c name ih =>
      obtain ⟨hHere, hRest⟩ := not_or.1 (mt List.mem_cons.2 hColon)
      rw [List.cons_append, pathSegments, ih hRest]
      rintro _ rfl
      exact absurd rfl hHere

theorem pathSegments_of_no_colon (hColon : ':' ∉ name) : pathSegments name = [name] := by
  induction name with
  | nil => rfl
  | cons c name ih =>
      obtain ⟨hHere, hRest⟩ := not_or.1 (mt List.mem_cons.2 hColon)
      rw [pathSegments, ih hRest]
      rintro _ rfl
      exact absurd rfl hHere

/-- **What was joined is found again**, if it has no colon of its own. -/
theorem pathSegments_intercalate {names : List (List Char)} (hNames : names ≠ [])
    (hColon : ∀ name ∈ names, ':' ∉ name) :
    pathSegments ([':', ':'].intercalate names) = names := by
  induction names with
  | nil => exact absurd rfl hNames
  | cons name rest ih =>
      obtain ⟨hHere, hRest⟩ := List.forall_mem_cons.1 hColon
      cases rest with
      | nil => rw [List.intercalate_singleton, pathSegments_of_no_colon hHere]
      | cons next rest =>
          rw [List.intercalate_cons_cons, List.append_assoc]
          exact (pathSegments_append hHere _).trans
            (congrArg (name :: ·) (ih (List.cons_ne_nil next rest) hRest))

/-- Cutting loses nothing. -/
theorem intercalate_pathSegments (s : List Char) :
    pathSegments s ≠ [] ∧ [':', ':'].intercalate (pathSegments s) = s := by
  induction s using pathSegments.induct with
  | case1 => exact ⟨List.cons_ne_nil [] [], rfl⟩
  | case2 rest ih =>
      rw [pathSegments]
      exact ⟨List.cons_ne_nil _ _, by rw [List.intercalate_cons_of_ne_nil ih.1, ih.2]; rfl⟩
  | case3 c rest hSingle hNone ih => exact absurd hNone ih.1
  | case4 c rest hSingle segment segments hSome ih =>
      rw [pathSegments, hSome]
      · rw [hSome] at ih
        exact ⟨List.cons_ne_nil _ _, by rw [List.intercalate_cons_cons_left, ih.2]⟩
      · exact hSingle

/-- **What is taken for the name of an implementation is one.** -/
theorem isImplementationPath_iff : isImplementationPath s = true ↔ ImplementationName s := by
  rw [isImplementationPath, List.all_eq_true]
  simp only [isIdentifier_iff]
  constructor
  · intro h
    obtain ⟨hNames, hWhole⟩ := intercalate_pathSegments s
    exact ⟨pathSegments s, hNames, h, hWhole.symm⟩
  · rintro ⟨names, hNames, hIdentifiers, rfl⟩
    rw [pathSegments_intercalate hNames fun name hName => (hIdentifiers name hName).no_colon]
    exact hIdentifiers

/-! ## Reading -/

/-- A line holds nothing, or the name of an implementation. -/
def Readable (line : List Char) : Prop := content line = [] ∨ ImplementationName (content line)

/-- What lines hold, those being left out that hold nothing. -/
def holdings (ls : List (List Char)) : List (List Char) := (ls.map content).filter (· ≠ [])

/-- What lines name: what they hold in order, later repetitions being dropped. -/
def named (ls : List (List Char)) : List String := ((holdings ls).map String.ofList).eraseDups

variable {service text : String} {number : Nat} {entries : List String} {ls : List (List Char)}
  {e : LoadError} {m : Manifest}

theorem parseLines_cons (service : String) (number : Nat) (entries : List String)
    (line : List Char) (rest : List (List Char)) :
    parseLines service number entries (line :: rest) =
      if content line = [] then parseLines service (number + 1) entries rest
      else if isImplementationPath (content line) then
        parseLines service (number + 1) (Order.addNew entries (String.ofList (content line))) rest
      else .error (.malformedManifest service number (String.ofList (content line))) := by
  rw [parseLines]
  simp only [List.isEmpty_iff]

/-- The reader looks at nothing but what the lines hold. -/
theorem parseLines_sameLines {pieces : List (List Char)} (h : Text.SameLines pieces ls) :
    parseLines service number entries pieces = parseLines service number entries ls := by
  induction h generalizing number entries with
  | nil => rfl
  | behind => rfl
  | cons hLine _ ih => simp only [parseLines_cons, content_of_piece hLine, ih]

theorem parse_eq (service text : String) : parse service text =
    (parseLines service 1 [] (Text.lines text.toList)).map (⟨service, ·⟩) := by
  rw [parse, parseLines_sameLines (Text.sameLines text.toList)]
  cases parseLines service 1 [] (Text.lines text.toList) <;> rfl

theorem holdings_cons_of_nil (h : content line = []) : holdings (line :: ls) = holdings ls := by
  simp [holdings, h]

theorem holdings_cons_of_ne (h : content line ≠ []) :
    holdings (line :: ls) = content line :: holdings ls := by
  simp [holdings, h]

theorem parseLines_of_readable (h : ∀ line ∈ ls, Readable line) :
    parseLines service number entries ls =
      .ok (((holdings ls).map String.ofList).foldl Order.addNew entries) := by
  induction ls generalizing number entries with
  | nil => rfl
  | cons line rest ih =>
      obtain ⟨hLine, hRest⟩ := List.forall_mem_cons.1 h
      rw [parseLines_cons]
      by_cases hNothing : content line = []
      · rw [if_pos hNothing, ih hRest, holdings_cons_of_nil hNothing]
      · have hName := isImplementationPath_iff.2 (hLine.resolve_left hNothing)
        rw [if_neg hNothing, if_pos hName, ih hRest, holdings_cons_of_ne hNothing]
        rfl

theorem parseLines_of_unreadable {before after : List (List Char)}
    (hBefore : ∀ earlier ∈ before, Readable earlier) (hLine : ¬ Readable line) :
    parseLines service number entries (before ++ line :: after) =
      .error (.malformedManifest service (number + before.length)
        (String.ofList (content line))) := by
  induction before generalizing number entries with
  | nil =>
      obtain ⟨hNothing, hName⟩ := not_or.1 hLine
      rw [List.nil_append, parseLines_cons, if_neg hNothing,
        if_neg (mt isImplementationPath_iff.1 hName)]
      rfl
  | cons earlier before ih =>
      obtain ⟨hEarlier, hRest⟩ := List.forall_mem_cons.1 hBefore
      have hNumber : number + 1 + before.length = number + (earlier :: before).length := by
        rw [List.length_cons]
        omega
      rw [List.cons_append, parseLines_cons]
      by_cases hNothing : content earlier = []
      · rw [if_pos hNothing, ih hRest, hNumber]
      · have hName := isImplementationPath_iff.2 (hEarlier.resolve_left hNothing)
        rw [if_neg hNothing, if_pos hName, ih hRest, hNumber]

/-- A line cannot be read, and all before it can. -/
structure FirstUnreadable (ls before : List (List Char)) (line : List Char) : Prop where
  split : ∃ after, ls = before ++ line :: after
  readable : ∀ earlier ∈ before, Readable earlier
  unreadable : ¬ Readable line

theorem exists_firstUnreadable (h : ¬ ∀ line ∈ ls, Readable line) :
    ∃ before line, FirstUnreadable ls before line := by
  have hFirst : ∃ line, Order.First (¬ Readable ·) ls line :=
    Order.exists_first (by simpa using h)
  obtain ⟨line, before, after, hSplit, hLine, hBefore⟩ := hFirst
  have hReadable : ∀ earlier ∈ before, Readable earlier := fun earlier hMem =>
    Classical.not_not.1 (hBefore earlier hMem)
  exact ⟨before, line, ⟨after, hSplit⟩, hReadable, hLine⟩

theorem FirstUnreadable.parse {before : List (List Char)} {line : List Char}
    (h : FirstUnreadable (Text.lines text.toList) before line) : parse service text =
      .error (.malformedManifest service (before.length + 1) (String.ofList (content line))) := by
  obtain ⟨after, hSplit⟩ := h.split
  rw [parse_eq, hSplit, parseLines_of_unreadable h.readable h.unreadable, Nat.add_comm]
  rfl

theorem parse_of_readable (h : ∀ line ∈ Text.lines text.toList, Readable line) :
    parse service text = .ok ⟨service, named (Text.lines text.toList)⟩ := by
  rw [parse_eq, parseLines_of_readable h, named, ← Order.distinct_eq_eraseDups]
  rfl

/-- **What is accepted**: the texts whose lines can all be read. -/
theorem parse_eq_ok_iff : parse service text = .ok m ↔
    (∀ line ∈ Text.lines text.toList, Readable line) ∧
      m = ⟨service, named (Text.lines text.toList)⟩ := by
  by_cases hAll : ∀ line ∈ Text.lines text.toList, Readable line
  · rw [parse_of_readable hAll]
    exact ⟨fun h => ⟨hAll, (Except.ok.inj h).symm⟩, fun h => congrArg Except.ok h.2.symm⟩
  · obtain ⟨before, line, hFirst⟩ := exists_firstUnreadable hAll
    rw [hFirst.parse]
    exact ⟨nofun, fun h => absurd h.1 hAll⟩

/-- **What is reported**: the first line that cannot be read. -/
theorem parse_eq_error_iff : parse service text = .error e ↔
    ∃ before line, FirstUnreadable (Text.lines text.toList) before line ∧
      e = .malformedManifest service (before.length + 1) (String.ofList (content line)) := by
  constructor
  · intro h
    have hSome : ¬ ∀ line ∈ Text.lines text.toList, Readable line := by
      intro hAll
      rw [parse_of_readable hAll] at h
      cases h
    obtain ⟨before, line, hFirst⟩ := exists_firstUnreadable hSome
    rw [hFirst.parse] at h
    exact ⟨before, line, hFirst, (Except.error.inj h).symm⟩
  · rintro ⟨before, line, hFirst, rfl⟩
    exact hFirst.parse

end Manifest
end TwoPhase
