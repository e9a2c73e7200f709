import TwoPhase.Symbol.Id

/-!
# Reading and writing dotted names

A path is written with dots between its segments.  It is read by cutting a text at its dots and
leaving out what is empty, so not every path comes back: a segment that is empty is lost, and one
with a dot inside falls apart.  Nor is every text written again as it was; but what was read from
it is.

## Strategy

Whatever the text, what is read from it are plain segments (`plain_of_mem_parse`).  So a path that
comes back from its text is plain, and plain paths do come back (`parse_text`).  A class is written
like the path that leads to it (`ClassId.text_eq`), and is read from the segments of such a path, so
the question about classes is one about paths.

## Main results

* `parse_text_eq_self_iff`, `ClassId.parse?_text_eq_some_iff` — what comes back from its text.
* `parse_eq_root_iff` — the texts in which there is nothing to read.
* `names_read_back` — both directions, for paths and for classes.
-/

namespace TwoPhase

namespace Text

variable {c sep : Char} {s piece : List Char}

theorem splitOn_sep (sep : Char) (rest : List Char) :
    (sep :: rest).splitOn sep = [] :: rest.splitOn sep :=
  List.splitOn_append_cons_self_of_not_mem List.not_mem_nil rest

/-- Any other character belongs to the first piece. -/
theorem exists_splitOn_cons (h : c ≠ sep) (rest : List Char) : ∃ first more,
    rest.splitOn sep = first :: more ∧ (c :: rest).splitOn sep = (c :: first) :: more := by
  cases hPieces : rest.splitOn sep with
  | nil => exact absurd hPieces (List.splitOn_ne_nil sep rest)
  | cons first more =>
      refine ⟨first, more, rfl, ?_⟩
      rw [List.splitOn_cons_eq_if_modifyHead, if_neg (by simpa using h), hPieces]
      rfl

/-- A piece of a text that was cut at a separator does not hold it. -/
theorem not_mem_of_mem_splitOn (h : piece ∈ s.splitOn sep) : sep ∉ piece := by
  induction s generalizing piece with
  | nil =>
      rw [List.splitOn_nil, List.mem_singleton] at h
      rw [h]
      exact List.not_mem_nil
  | cons c rest ih =>
      by_cases hSame : c = sep
      · rw [hSame, splitOn_sep] at h
        rcases List.mem_cons.1 h with rfl | hRest
        · exact List.not_mem_nil
        · exact ih hRest
      · obtain ⟨first, more, hPieces, hCut⟩ := exists_splitOn_cons hSame rest
        rw [hPieces] at ih
        rw [hCut] at h
        rcases List.mem_cons.1 h with rfl | hMore
        · rw [List.mem_cons, not_or]
          exact ⟨Ne.symm hSame, ih List.mem_cons_self⟩
        · exact ih (List.mem_cons_of_mem first hMore)

/-- All pieces of a text are empty exactly if the text has nothing but separators. -/
theorem forall_splitOn_eq_nil_iff :
    (∀ piece ∈ s.splitOn sep, piece = []) ↔ ∀ c ∈ s, c = sep := by
  induction s with
  | nil => simp [List.splitOn_nil]
  | cons c rest ih =>
      rw [List.forall_mem_cons, ← ih]
      by_cases hSame : c = sep
      · rw [hSame, splitOn_sep, List.forall_mem_cons]
        exact and_congr_left fun _ => iff_of_true rfl rfl
      · obtain ⟨first, more, _, hCut⟩ := exists_splitOn_cons hSame rest
        rw [hCut]
        simp [hSame]

end Text

namespace Path

variable {p q : Path} {s : String}

theorem segments_inj : p.segments = q.segments ↔ p = q := by
  cases p
  cases q
  rw [Path.mk.injEq]

/-! ## What is read -/

/-- **Only plain segments are read**, whatever the text is. -/
theorem plain_of_mem_parse {n : Name} (h : n ∈ (parse s).segments) : Plain n := by
  obtain ⟨piece, hPiece, rfl⟩ := List.mem_map.1 h
  obtain ⟨hCut, hKept⟩ := List.mem_filter.1 hPiece
  refine ⟨?_, ?_⟩
  · simpa using hKept
  · rw [String.toList_ofList]
    exact Text.not_mem_of_mem_splitOn hCut

/-- **Nothing is read from dots alone**, and something from every other text. -/
theorem parse_eq_root_iff : parse s = root ↔ ∀ c ∈ s.toList, c = '.' := by
  rw [← Text.forall_splitOn_eq_nil_iff, parse, root, Path.mk.injEq, List.map_eq_nil_iff,
    List.filter_eq_nil_iff]
  simp

/-! ## What is written -/

/-- **A path comes back from its text exactly if its segments are plain.** -/
theorem parse_text_eq_self_iff : parse p.text = p ↔ ∀ n ∈ p.segments, Plain n := by
  constructor
  · intro h n hn
    rw [← h] at hn
    exact plain_of_mem_parse hn
  · exact parse_text

/-- A child is written behind its parent, unless this is the root. -/
theorem text_child {name : Name} (h : p ≠ root) :
    (p.child name).text = p.text ++ "." ++ name.text := by
  have hSegments : p.segments.map Name.text ≠ [] := by
    rw [Ne, List.map_eq_nil_iff]
    exact fun hNone => h (congrArg Path.mk hNone)
  rw [text, child, List.map_append, String.intercalate_append_of_ne_nil hSegments (by simp),
    List.map_singleton, String.intercalate_singleton]
  rfl

end Path

namespace ClassId

variable {id : ClassId} {s : String}

/-- A class is written like the path that leads to it. -/
theorem text_eq (id : ClassId) : id.text = (id.package.child id.name).text := by
  obtain ⟨⟨segments⟩, name⟩ := id
  cases segments with
  | nil => exact String.intercalate_singleton.symm
  | cons first rest =>
      rw [Path.text_child (by simp [Path.root]), text, if_neg (by simp [Path.isRoot])]
      simp [String.append_assoc, toString]

/-- **A class comes back from its name exactly if package and short name are plain.** -/
theorem parse?_text_eq_some_iff : parse? id.text = some id ↔
    (∀ n ∈ id.package.segments, Path.Plain n) ∧ Path.Plain id.name := by
  have hSegments : (Path.parse id.text).segments = id.package.segments ++ [id.name] ↔
      Path.parse (id.package.child id.name).text = id.package.child id.name := by
    rw [text_eq, ← Path.segments_inj]
    rfl
  rw [parse?_eq_some_iff, hSegments, Path.parse_text_eq_self_iff, Path.child,
    List.forall_mem_append, List.forall_mem_singleton]

/-- A text names no class exactly if there is nothing to read in it. -/
theorem parse?_eq_none_iff : parse? s = none ↔ ∀ c ∈ s.toList, c = '.' := by
  rw [← Path.parse_eq_root_iff, parse?, Option.map_eq_none_iff, Path.shortName?,
    List.getLast?_eq_none_iff, ← Path.segments_inj]
  rfl

end ClassId

/-- **Names are read back.**  What was read from a text is read again from its own text, and its
segments are plain: neither empty nor with a dot inside.  A path, or a class, comes back from its
text exactly if it is made of plain segments.  A text names no class exactly if it has nothing but
dots, or nothing at all. -/
theorem names_read_back :
    (∀ s, Path.parse (Path.parse s).text = Path.parse s ∧
      ∀ n ∈ (Path.parse s).segments, Path.Plain n) ∧
    (∀ p : Path, Path.parse p.text = p ↔ ∀ n ∈ p.segments, Path.Plain n) ∧
    (∀ id : ClassId, ClassId.parse? id.text = some id ↔
      (∀ n ∈ id.package.segments, Path.Plain n) ∧ Path.Plain id.name) ∧
    ∀ s, ClassId.parse? s = none ↔ ∀ c ∈ s.toList, c = '.' := by
  refine ⟨fun s => ?_, fun _ => Path.parse_text_eq_self_iff,
    fun _ => ClassId.parse?_text_eq_some_iff, fun _ => ClassId.parse?_eq_none_iff⟩
  have hPlain : ∀ n ∈ (Path.parse s).segments, Path.Plain n := fun _ => Path.plain_of_mem_parse
  exact ⟨Path.parse_text hPlain, hPlain⟩

/-- A dot inside the short name of a class makes a package of what stands before it. -/
example : ClassId.parse? (ClassId.mk .root ⟨"a.b"⟩).text = some ⟨⟨[⟨"a"⟩]⟩, ⟨"b"⟩⟩ := by decide

end TwoPhase
