import TwoPhase.Ir.Body

/-!
# The structural check

`Body.check` reads a body in four passes; `Body.WellFormed` says what it is after.  Here the two
are shown to be the same, and what a well-formed body guarantees about lookups is spelled out:
where control can come to, there is a block, and it is closed.

## Main results

* `check_eq_ok_iff` — the check accepts exactly the well-formed bodies.
* `WellFormed.closed_of_block?`, `WellFormed.exists_entry`, `WellFormed.exists_target` — lookups
  in a well-formed body.
-/

namespace TwoPhase.Ir.Body

variable {b : Body} {id target : BlockId} {block : Block}

theorem mem_of_block? (h : b.block? id = some block) : block ∈ b.blocks :=
  List.mem_of_find?_eq_some h

theorem openBlock?_eq_none_iff :
    b.openBlock? = none ↔ ∀ block ∈ b.blocks, block.terminator ≠ .unreachable := by
  simp [openBlock?, Block.isTerminated]

theorem successor?_eq_some_iff :
    block.successor? = some target ↔ block.terminator = .jump target := by
  rw [Block.successor?]
  cases block.terminator <;> simp [Terminator.target?]

theorem strayJump?_eq_none_iff :
    b.strayJump? = none ↔ ∀ block ∈ b.blocks, ∀ target, block.terminator = .jump target →
      ∃ next ∈ b.blocks, next.id = target := by
  rw [strayJump?, List.findSome?_eq_none_iff]
  refine forall₂_congr fun block _ => ?_
  constructor
  · intro h target hJump
    rw [successor?_eq_some_iff.2 hJump] at h
    rw [← block?_isSome_iff]
    cases hTarget : b.block? target with
    | none => simp [hTarget] at h
    | some next => rfl
  · intro h
    cases hSuccessor : block.successor? with
    | none => rfl
    | some target =>
        have hTarget := block?_isSome_iff.2 (h target (successor?_eq_some_iff.1 hSuccessor))
        simp [Option.isNone_iff_eq_none, Option.isSome_iff_ne_none.1 hTarget]

/-- **The check decides well-formedness.** -/
theorem check_eq_ok_iff : b.check = .ok () ↔ b.WellFormed := by
  rw [check]
  constructor
  · intro h
    split at h
    · cases h
    · split at h
      · cases h
      · rename_i hEntry
        split at h
        · cases h
        · rename_i hOpen
          split at h
          · cases h
          · rename_i hStray
            have hSome : (b.block? b.entry).isSome = true := by
              simpa [ entry?, ← Option.isSome_iff_ne_none] using hEntry
            exact ⟨block?_isSome_iff.1 hSome, openBlock?_eq_none_iff.1 hOpen,
              strayJump?_eq_none_iff.1 hStray⟩
  · intro h
    have hEntry : b.entry?.isSome = true := block?_isSome_iff.2 h.entry
    obtain ⟨block, hBlock, _⟩ := h.entry
    rw [if_neg (by simpa using List.ne_nil_of_mem hBlock),
      if_neg (by simpa [Option.isSome_iff_ne_none] using hEntry),
      openBlock?_eq_none_iff.2 h.closed, strayJump?_eq_none_iff.2 h.jumps]

/-! ## Lookups in a well-formed body -/

/-- A block that a lookup finds is closed, whichever of several blocks with its number it is. -/
theorem WellFormed.closed_of_block? (h : b.WellFormed) (hBlock : b.block? id = some block) :
    block.terminator ≠ .unreachable :=
  h.closed block (mem_of_block? hBlock)

theorem WellFormed.exists_entry (h : b.WellFormed) : ∃ block, b.block? b.entry = some block :=
  Option.isSome_iff_exists.1 (block?_isSome_iff.2 h.entry)

theorem WellFormed.exists_target (h : b.WellFormed) (hBlock : b.block? id = some block)
    (hJump : block.terminator = .jump target) : ∃ next, b.block? target = some next :=
  Option.isSome_iff_exists.1
    (block?_isSome_iff.2 (h.jumps block (mem_of_block? hBlock) target hJump))

end TwoPhase.Ir.Body
