import TwoPhase.Ir.Module

/-!
# Dumps

The text in which people read bodies and modules: one line for each instruction, registers with
the numbers of their types, every line ended by a line feed.
-/

namespace TwoPhase.Ir

/-- Joins lines, each ended by a line feed. -/
def unlines (lines : List String) : String := String.join (lines.map (· ++ "\n"))

/-- The lines of a block: its number and label, then instructions and terminator, indented. -/
def Block.lines (b : Block) : List String :=
  let head :=
    match b.label with
    | some label => s!"  {b.id.text}: ; {label}"
    | none => s!"  {b.id.text}:"
  head :: (b.instrs.map Instr.text ++ [b.terminator.text]).map ("    " ++ ·)

/-- The lines of a body: its signature, its source and its blocks. -/
def Body.lines (b : Body) : List String :=
  let params := ", ".intercalate (b.params.map Register.text)
  s!"fn {b.name}({params}) -> {b.returns.text} \x7b" :: s!"  ; at {b.span.text}" ::
    (b.blocks.flatMap Block.lines ++ ["\x7d"])

/-- The text of a body. -/
def Body.dump (b : Body) : String := unlines b.lines

/-- The lines of a class: its superclass and its slots, and an empty line behind them. -/
def ClassLayout.lines (layout : ClassLayout) : List String :=
  let head :=
    match layout.parent with
    | some parent => s!"; class {layout.id.text} : {parent.text}"
    | none => s!"; class {layout.id.text}"
  head :: (layout.slots.toList.map fun slot => s!";   field {slot.name.text}: {slot.type.text}") ++
    [""]

/-- The lines of a module: its name, its classes, and its bodies with an empty line behind
each. -/
def Module.lines (m : Module) : List String :=
  s!"; module {m.name}" :: "" ::
    (m.classes.flatMap ClassLayout.lines ++ m.bodies.flatMap fun body => body.lines ++ [""])

/-- The text of a module. -/
def Module.dump (m : Module) : String := unlines m.lines

end TwoPhase.Ir
