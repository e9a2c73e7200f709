import TwoPhase.Order.First
import TwoPhase.Proofs.Ir.Check
import TwoPhase.Text.Cut

/-!
# What the structural check reports

A body that cannot be run may have several defects at once.  The check reports one of them, and this
module says which: the missing of all blocks before that of the entry block, then the first open
block, and then the first jump to a block that is not there.  The message in words says the same:
from it the defect can be told.

## Strategy

`FirstDefect` describes what is reported by the blocks alone, without the passes of the check.  Each
pass gets an equivalence (`openBlock?_eq_some_iff`, `strayJump?_eq_some_iff`), and with these the
check reports a first defect where there is one (`FirstDefect.check`); and there is one in every
body that is not well formed (`exists_firstDefect`).  A message is cut at its first blank; what
comes before it has no blank, since it is a fixed word or a block number.

## Main results

* `check_eq_error_iff` — the check reports the first defect.
* `Defect.message_injective` — no two defects have one message.
-/

namespace TwoPhase.Ir

open TwoPhase.Order (First)

/-! ## Messages -/

theorem BlockId.text_eq (id : BlockId) :
    id.text.toList = 'b' :: 'b' :: Nat.toDigits 10 id.index := by
  have hDigits : id.index.repr.toList = Nat.toDigits 10 id.index := by
    rw [Nat.repr_eq_ofList_toDigits, String.toList_ofList]
  show ("bb" ++ id.index.repr).toList = _
  rw [String.toList_append, hDigits]
  rfl

theorem BlockId.text_injective {a b : BlockId} (h : a.text.toList = b.text.toList) : a = b := by
  rw [text_eq, text_eq, List.cons_inj_right, List.cons_inj_right] at h
  have hRead := congrArg (Nat.ofDigitChars 10 · 0) h
  simp only [Nat.ofDigitChars_ten_toDigits] at hRead
  exact congrArg BlockId.mk hRead

/-- A block number is a single word. -/
theorem BlockId.no_blank_text (id : BlockId) : ' ' ∉ id.text.toList := by
  have hDigits : ' ' ∉ Nat.toDigits 10 id.index := fun hBlank =>
    absurd (Nat.isDigit_of_mem_toDigits (by decide) (by decide) hBlank) (by decide)
  simp [text_eq, hDigits]

namespace Defect

/-- The first word of the message. -/
def subject : Defect → List Char
  | noBlocks => "body".toList
  | missingEntry _ => "missing".toList
  | openBlock block | unknownTarget block _ => block.text.toList

/-- The other words of the message. -/
def complaint : Defect → List Char
  | noBlocks => "has no blocks".toList
  | missingEntry entry => "entry ".toList ++ entry.text.toList
  | openBlock _ => "has no terminator".toList
  | unknownTarget _ target => "jumps to unknown ".toList ++ target.text.toList

theorem message_eq (defect : Defect) :
    defect.message.toList = defect.subject ++ ' ' :: defect.complaint := by
  cases defect with
  | noBlocks => decide
  | missingEntry entry =>
      simp only [message, toString, String.toList_append]
      rfl
  | openBlock block =>
      simp only [message, toString, String.toList_append]
      rfl
  | unknownTarget block target =>
      simp only [message, toString, String.toList_append, List.append_assoc]
      rfl

theorem no_blank_subject (defect : Defect) : ' ' ∉ defect.subject := by
  cases defect with
  | noBlocks => decide
  | missingEntry entry => exact (by decide : ' ' ∉ "missing".toList)
  | openBlock block => exact block.no_blank_text
  | unknownTarget block target => exact block.no_blank_text

/-- A message is cut at its first blank. -/
theorem cutFirst_message (defect : Defect) :
    Text.cutFirst ' ' defect.message.toList = some (defect.subject, defect.complaint) :=
  Text.cutFirst_eq_some_iff.2 ⟨defect.message_eq, defect.no_blank_subject⟩

/-- Two letters of the message that tell the kind of the defect: the second one of the first word,
and the first one of the others. -/
def marks : Defect → Option Char × Option Char
  | noBlocks => ('o', 'h')
  | missingEntry _ => ('i', 'e')
  | openBlock _ => ('b', 'h')
  | unknownTarget _ _ => ('b', 'j')

theorem marks_eq (defect : Defect) :
    (defect.subject[1]?, defect.complaint.head?) = defect.marks := by
  cases defect with
  | noBlocks => decide
  | missingEntry entry => rfl
  | openBlock block =>
      have hText : (openBlock block).subject = _ := block.text_eq
      rw [hText]
      rfl
  | unknownTarget block target =>
      have hText : (unknownTarget block target).subject = _ := block.text_eq
      rw [hText]
      rfl

/-- **The message tells the defect.** -/
theorem message_injective : Function.Injective message := by
  intro a b hMessage
  have hCut : some (a.subject, a.complaint) = some (b.subject, b.complaint) := by
    rw [← cutFirst_message, ← cutFirst_message, hMessage]
  obtain ⟨hSubject, hComplaint⟩ := Prod.mk.inj (Option.some.inj hCut)
  have hMarks : a.marks = b.marks := by
    rw [← marks_eq, ← marks_eq, hSubject, hComplaint]
  -- defects of different kinds differ in their marks
  cases a <;> cases b <;> simp [marks] at hMarks
  case noBlocks.noBlocks => rfl
  case missingEntry.missingEntry =>
    exact congrArg missingEntry (BlockId.text_injective (List.append_cancel_left hComplaint))
  case openBlock.openBlock => exact congrArg openBlock (BlockId.text_injective hSubject)
  case unknownTarget.unknownTarget =>
    exact congr (congrArg unknownTarget (BlockId.text_injective hSubject))
      (BlockId.text_injective (List.append_cancel_left hComplaint))

end Defect

/-! ## The first defect -/

namespace Body

variable {b : Body} {block : Block} {target : BlockId} {defect : Defect}

/-- A block jumps to a block that is not there. -/
def Strays (b : Body) (block : Block) : Prop :=
  ∃ target, block.terminator = .jump target ∧ ∀ other ∈ b.blocks, other.id ≠ target

/-- The first defect of a body. -/
inductive FirstDefect (b : Body) : Defect → Prop
  | noBlocks (hNone : b.blocks = []) : FirstDefect b .noBlocks
  | missingEntry (hSome : b.blocks ≠ []) (hEntry : ¬ ∃ block ∈ b.blocks, block.id = b.entry) :
      FirstDefect b (.missingEntry b.entry)
  | openBlock {block : Block} (hEntry : ∃ block ∈ b.blocks, block.id = b.entry)
      (hOpen : First (·.terminator = .unreachable) b.blocks block) :
      FirstDefect b (.openBlock block.id)
  | unknownTarget {block : Block} {target : BlockId}
      (hEntry : ∃ block ∈ b.blocks, block.id = b.entry)
      (hClosed : ∀ block ∈ b.blocks, block.terminator ≠ .unreachable)
      (hStray : First b.Strays b.blocks block) (hJump : block.terminator = .jump target) :
      FirstDefect b (.unknownTarget block.id target)

theorem block?_eq_none_iff {id : BlockId} :
    b.block? id = none ↔ ∀ block ∈ b.blocks, block.id ≠ id := by
  simp [block?]

theorem openBlock?_eq_some_iff :
    b.openBlock? = some block ↔ First (·.terminator = .unreachable) b.blocks block := by
  rw [openBlock?, Order.find?_eq_some_iff_first]
  exact Order.first_congr fun other => by simp [Block.isTerminated]

/-- Where a block jumps to if it strays. -/
def strayTarget? (b : Body) (block : Block) : Option BlockId :=
  block.successor?.filter fun target => (b.block? target).isNone

theorem strayTarget?_eq_some_iff : b.strayTarget? block = some target ↔
    block.terminator = .jump target ∧ ∀ other ∈ b.blocks, other.id ≠ target := by
  rw [strayTarget?, Option.filter_eq_some_iff, successor?_eq_some_iff, Option.isNone_iff_eq_none,
    block?_eq_none_iff]

theorem strayTarget?_eq_none_iff : b.strayTarget? block = none ↔ ¬ b.Strays block := by
  rw [Option.eq_none_iff_forall_ne_some]
  simp only [ne_eq, strayTarget?_eq_some_iff, Strays, not_exists]

theorem strayJump?_eq :
    b.strayJump? = b.blocks.findSome? fun block => (b.strayTarget? block).map (block.id, ·) := by
  rw [strayJump?]
  congr 1
  funext block
  rw [strayTarget?]
  cases block.successor? with
  | none => rfl
  | some target =>
      rw [Option.filter_some]
      exact (apply_ite (Option.map (block.id, ·)) _ (some target) none).symm

theorem strayJump?_eq_some_iff {id : BlockId} : b.strayJump? = some (id, target) ↔
    ∃ block, First b.Strays b.blocks block ∧ block.terminator = .jump target ∧ block.id = id := by
  simp only [strayJump?_eq, List.findSome?_eq_some_iff, Option.map_eq_some_iff,
    Option.map_eq_none_iff, strayTarget?_eq_none_iff, strayTarget?_eq_some_iff, Prod.mk.injEq]
  constructor
  · rintro ⟨before, block, after, hBlocks, ⟨_, ⟨hJump, hStray⟩, hId, rfl⟩, hBefore⟩
    exact ⟨block, ⟨before, after, hBlocks, ⟨_, hJump, hStray⟩, hBefore⟩, hJump, hId⟩
  · rintro ⟨block, ⟨before, after, hBlocks, ⟨target', hJump', hStray⟩, hBefore⟩, hJump, hId⟩
    obtain rfl : target' = target := by simpa [hJump] using hJump'.symm
    exact ⟨before, block, after, hBlocks, ⟨target', ⟨hJump, hStray⟩, hId, rfl⟩, hBefore⟩

theorem isNone_entry?_iff :
    b.entry?.isNone = true ↔ ¬ ∃ block ∈ b.blocks, block.id = b.entry := by
  rw [← block?_isSome_iff, entry?, ← Option.not_isSome, Bool.not_eq_true', Bool.not_eq_true]

/-- What is not well formed has a first defect. -/
theorem exists_firstDefect (h : ¬ b.WellFormed) : ∃ defect, b.FirstDefect defect := by
  by_cases hEntry : ∃ block ∈ b.blocks, block.id = b.entry
  · by_cases hOpen : ∃ block ∈ b.blocks, block.terminator = .unreachable
    · obtain ⟨block, hFirst⟩ := Order.exists_first hOpen
      exact ⟨_, .openBlock hEntry hFirst⟩
    · have hClosed : ∀ block ∈ b.blocks, block.terminator ≠ .unreachable :=
        fun block hMem hHere => hOpen ⟨block, hMem, hHere⟩
      by_cases hStrays : ∃ block ∈ b.blocks, b.Strays block
      · obtain ⟨block, hFirst⟩ := Order.exists_first hStrays
        obtain ⟨target, hJump, _⟩ := hFirst.prop
        exact ⟨_, .unknownTarget hEntry hClosed hFirst hJump⟩
      · refine absurd ⟨hEntry, hClosed, fun block hMem target hJump => ?_⟩ h
        by_cases hKnown : ∃ next ∈ b.blocks, next.id = target
        · exact hKnown
        · exact absurd ⟨block, hMem, target, hJump, fun other hOther hId =>
            hKnown ⟨other, hOther, hId⟩⟩ hStrays
  · by_cases hNone : b.blocks = []
    · exact ⟨_, .noBlocks hNone⟩
    · exact ⟨_, .missingEntry hNone hEntry⟩

theorem FirstDefect.check (h : b.FirstDefect defect) : b.check = .error defect := by
  rw [Body.check]
  cases h with
  | noBlocks hNone => rw [if_pos (List.isEmpty_iff.2 hNone)]
  | missingEntry hSome hEntry =>
      rw [if_neg fun hNone => hSome (List.isEmpty_iff.1 hNone),
        if_pos (isNone_entry?_iff.2 hEntry)]
  | openBlock hEntry hOpen =>
      rw [if_neg (by simpa using List.ne_nil_of_mem hOpen.mem),
        if_neg fun hMissing => isNone_entry?_iff.1 hMissing hEntry,
        openBlock?_eq_some_iff.2 hOpen]
  | unknownTarget hEntry hClosed hStray hJump =>
      rw [if_neg (by simpa using List.ne_nil_of_mem hStray.mem),
        if_neg fun hMissing => isNone_entry?_iff.1 hMissing hEntry,
        openBlock?_eq_none_iff.2 hClosed, strayJump?_eq_some_iff.2 ⟨_, hStray, hJump, rfl⟩]

/-- **The check reports the first defect.** -/
theorem check_eq_error_iff : b.check = .error defect ↔ b.FirstDefect defect := by
  constructor
  · intro hError
    have hDefect : ¬ b.WellFormed := by
      rw [← check_eq_ok_iff, hError]
      exact nofun
    obtain ⟨found, hFirst⟩ := exists_firstDefect hDefect
    obtain rfl : found = defect := Except.error.inj (hFirst.check.symm.trans hError)
    exact hFirst
  · exact FirstDefect.check

/-- What the check says of a body in words. -/
def verdict (b : Body) : Except String Unit := b.check.mapError Defect.message

theorem verdict_of_ok (h : b.check = .ok ()) : b.verdict = .ok () := by
  rw [verdict, h]
  rfl

theorem verdict_of_error (h : b.check = .error defect) : b.verdict = .error defect.message := by
  rw [verdict, h]
  rfl

theorem verdict_eq_ok_iff : b.verdict = .ok () ↔ b.WellFormed := by
  rw [← check_eq_ok_iff]
  cases hCheck : b.check with
  | ok => simp only [verdict_of_ok hCheck]
  | error defect => simp only [verdict_of_error hCheck, reduceCtorEq]

/-- There are no other messages than those of the first defect. -/
theorem exists_defect_of_verdict {text : String} (h : b.verdict = .error text) :
    ∃ defect, b.FirstDefect defect ∧ text = defect.message := by
  cases hCheck : b.check with
  | ok =>
      rw [verdict_of_ok hCheck] at h
      cases h
  | error defect =>
      rw [verdict_of_error hCheck] at h
      exact ⟨defect, check_eq_error_iff.1 hCheck, (Except.error.inj h).symm⟩

/-- **The first defect can be told from the message.** -/
theorem verdict_eq_error_iff : b.verdict = .error defect.message ↔ b.FirstDefect defect := by
  constructor
  · intro h
    obtain ⟨found, hFirst, hMessage⟩ := exists_defect_of_verdict h
    exact Defect.message_injective hMessage ▸ hFirst
  · exact fun h => verdict_of_error (check_eq_error_iff.2 h)

end Body
end TwoPhase.Ir
