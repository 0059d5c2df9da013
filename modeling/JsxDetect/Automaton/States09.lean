import JsxDetect.Automaton.Packed

/-!
# Parsing automaton: states 4608 to 5119

Packed rows; see `PackedRow` for the layout.
-/

namespace JsxDetect.Automaton

/-- States 4608 to 4671. -/
def states4608 : List PackedRow := [
  ⟨1, 5, 0x80000080180d, 0x0⟩,
  ⟨1, 5, 0x80000080180d, 0x0⟩,
  ⟨1, 5, 0x80000080100d, 0x0⟩,
  ⟨1, 5, 0x80000080100d, 0x0⟩,
  ⟨1, 5, 0x80000080100d, 0x0⟩,
  ⟨1, 5, 0x80000080100d, 0x0⟩,
  ⟨1, 5, 0x80000085bc0d, 0x0⟩,
  ⟨1, 5, 0x80000085bc0d, 0x0⟩,
  ⟨1, 5, 0x80000080100d, 0x0⟩,
  ⟨1, 5, 0x80000080100d, 0x0⟩,
  ⟨1, 5, 0x80000080100d, 0x0⟩,
  ⟨1, 5, 0x80000080100d, 0x0⟩,
  ⟨1, 5, 0x80000080100d, 0x0⟩,
  ⟨1, 5, 0x80000080100d, 0x0⟩,
  ⟨1, 5, 0x80000080100d, 0x0⟩,
  ⟨1, 5, 0x80000080100d, 0x0⟩,
  ⟨1, 5, 0x80000080100d, 0x0⟩,
  ⟨1, 5, 0x80000080100d, 0x0⟩,
  ⟨1, 5, 0x80000080100d, 0x0⟩,
  ⟨1, 5, 0x80000080100d, 0x0⟩,
  ⟨1, 5, 0x80000080100d, 0x0⟩,
  ⟨1, 5, 0x80000080100d, 0x0⟩,
  ⟨1, 5, 0x80000080100d, 0x0⟩,
  ⟨1, 5, 0x80000080100d, 0x0⟩,
  ⟨1, 5, 0x80000080100d, 0x0⟩,
  ⟨1, 5, 0x80000080100d, 0x0⟩,
  ⟨1, 5, 0x80000080100d, 0x0⟩,
  ⟨1, 5, 0x80000080100d, 0x0⟩,
  ⟨1, 5, 0x80000080100d, 0x0⟩,
  ⟨1, 5, 0x80000080100d, 0x0⟩,
  ⟨1, 5, 0x80000080100d, 0x0⟩,
  ⟨1, 5, 0x80000080100d, 0x0⟩,
  ⟨1, 5, 0x80000080100d, 0x0⟩,
  ⟨1, 5, 0x80000080100d, 0x0⟩,
  ⟨1, 5, 0x80000080100d, 0x0⟩,
  ⟨1, 5, 0x80000080100d, 0x0⟩,
  ⟨1, 5, 0x80000080100d, 0x0⟩,
  ⟨1, 5, 0x80000080100d, 0x0⟩,
  ⟨1, 5, 0x80000080100d, 0x0⟩,
  ⟨1, 5, 0x80000080100d, 0x0⟩,
  ⟨1, 5, 0x80000080100d, 0x0⟩,
  ⟨1, 5, 0x80000080100d, 0x0⟩,
  ⟨1, 5, 0x80000080100d, 0x0⟩,
  ⟨1, 5, 0x80000080100d, 0x0⟩,
  ⟨1, 5, 0x80000080100d, 0x0⟩,
  ⟨1, 5, 0x80000080100d, 0x0⟩,
  ⟨1, 5, 0x80000080100d, 0x0⟩,
  ⟨1, 5, 0x80000080100d, 0x0⟩,
  ⟨1, 5, 0x80000080100d, 0x0⟩,
  ⟨1, 5, 0x80000080100d, 0x0⟩,
  ⟨1, 5, 0x80000080100d, 0x0⟩,
  ⟨1, 5, 0x80000080100d, 0x0⟩,
  ⟨1, 5, 0x80000080100d, 0x0⟩,
  ⟨1, 5, 0x80000080100d, 0x0⟩,
  ⟨1, 5, 0x80000080100d, 0x0⟩,
  ⟨1, 5, 0x80000080100d, 0x0⟩,
  ⟨1, 5, 0x80000080100d, 0x0⟩,
  ⟨1, 5, 0x80000080100d, 0x0⟩,
  ⟨1, 5, 0x80000080100d, 0x0⟩,
  ⟨1, 5, 0x80000080100d, 0x0⟩,
  ⟨1, 5, 0x80000080100d, 0x0⟩,
  ⟨1, 5, 0x80000080100d, 0x0⟩,
  ⟨1, 5, 0x80000080100d, 0x0⟩,
  ⟨1, 5, 0x80000080100d, 0x0⟩]

/-- States 4672 to 4735. -/
def states4672 : List PackedRow := [
  ⟨1, 5, 0x80000080100d, 0x0⟩,
  ⟨1, 5, 0x80000080100d, 0x0⟩,
  ⟨1, 5, 0x80000080100d, 0x0⟩,
  ⟨1, 5, 0x80000080100d, 0x0⟩,
  ⟨1, 5, 0x80000080100d, 0x0⟩,
  ⟨1, 5, 0x80000080100d, 0x0⟩,
  ⟨1, 5, 0x80000080100d, 0x0⟩,
  ⟨1, 5, 0x80000080100d, 0x0⟩,
  ⟨1, 5, 0x80000080100d, 0x0⟩,
  ⟨1, 5, 0x80000080100d, 0x0⟩,
  ⟨1, 5, 0x80000080100d, 0x0⟩,
  ⟨1, 5, 0x80000080100d, 0x0⟩,
  ⟨1, 5, 0x80000080100d, 0x0⟩,
  ⟨1, 5, 0x80000080100d, 0x0⟩,
  ⟨1, 5, 0x80000080100d, 0x0⟩,
  ⟨1, 5, 0x80000080100d, 0x0⟩,
  ⟨1, 5, 0x80000080100d, 0x0⟩,
  ⟨1, 5, 0x80000080100d, 0x0⟩,
  ⟨1, 5, 0x80000080100d, 0x0⟩,
  ⟨1, 5, 0x80000080100d, 0x0⟩,
  ⟨1, 5, 0x80000080100d, 0x0⟩,
  ⟨1, 5, 0x80000080100d, 0x0⟩,
  ⟨1, 5, 0x80000080100d, 0x0⟩,
  ⟨1, 5, 0x80000080100d, 0x0⟩,
  ⟨1, 5, 0x80000080100d, 0x0⟩,
  ⟨1, 5, 0x80000080100d, 0x0⟩,
  ⟨1, 5, 0x80000080100d, 0x0⟩,
  ⟨1, 5, 0x80000080100d, 0x0⟩,
  ⟨1, 5, 0x80000080100d, 0x0⟩,
  ⟨1, 5, 0x80000080100d, 0x0⟩,
  ⟨1, 5, 0x80000080140d, 0x0⟩,
  ⟨1, 5, 0x80000080140d, 0x0⟩,
  ⟨1, 5, 0x80000080140d, 0x0⟩,
  ⟨1, 5, 0x80000080140d, 0x0⟩,
  ⟨1, 5, 0x80000089f00d, 0x0⟩,
  ⟨1, 5, 0x80000080140d, 0x0⟩,
  ⟨1, 5, 0x80000080140d, 0x0⟩,
  ⟨1, 5, 0x80000080140d, 0x0⟩,
  ⟨1, 5, 0x80000080140d, 0x0⟩,
  ⟨1, 5, 0x80000080140d, 0x0⟩,
  ⟨1, 5, 0x80000080140d, 0x0⟩,
  ⟨1, 5, 0x80000080140d, 0x0⟩,
  ⟨1, 5, 0x80000080140d, 0x0⟩,
  ⟨1, 5, 0x80000080140d, 0x0⟩,
  ⟨1, 5, 0x80000080140d, 0x0⟩,
  ⟨1, 5, 0x80000080140d, 0x0⟩,
  ⟨1, 5, 0x80000080140d, 0x0⟩,
  ⟨1, 5, 0x80000080140d, 0x0⟩,
  ⟨1, 5, 0x80000080140d, 0x0⟩,
  ⟨1, 5, 0x80000080140d, 0x0⟩,
  ⟨1, 5, 0x80000080140d, 0x0⟩,
  ⟨1, 5, 0x80000080140d, 0x0⟩,
  ⟨1, 5, 0x80000080140d, 0x0⟩,
  ⟨1, 5, 0x80000080140d, 0x0⟩,
  ⟨1, 5, 0x80000080140d, 0x0⟩,
  ⟨1, 5, 0x80000080140d, 0x0⟩,
  ⟨1, 5, 0x80000080140d, 0x0⟩,
  ⟨1, 5, 0x80000080140d, 0x0⟩,
  ⟨1, 5, 0x80000080140d, 0x0⟩,
  ⟨1, 5, 0x80000080140d, 0x0⟩,
  ⟨1, 5, 0x80000080140d, 0x0⟩,
  ⟨1, 5, 0x80000080140d, 0x0⟩,
  ⟨1, 5, 0x80000080140d, 0x0⟩,
  ⟨1, 5, 0x80000080140d, 0x0⟩]

/-- States 4736 to 4799. -/
def states4736 : List PackedRow := [
  ⟨1, 5, 0x80000080140d, 0x0⟩,
  ⟨1, 5, 0x80000080140d, 0x0⟩,
  ⟨1, 5, 0x80000080140d, 0x0⟩,
  ⟨1, 5, 0x80000080140d, 0x0⟩,
  ⟨1, 5, 0x80000080140d, 0x0⟩,
  ⟨1, 5, 0x80000080140d, 0x0⟩,
  ⟨1, 5, 0x80000080140d, 0x0⟩,
  ⟨1, 5, 0x80000080140d, 0x0⟩,
  ⟨1, 5, 0x80000080140d, 0x0⟩,
  ⟨1, 5, 0x80000080140d, 0x0⟩,
  ⟨1, 5, 0x80000080140d, 0x0⟩,
  ⟨1, 5, 0x80000080140d, 0x0⟩,
  ⟨1, 5, 0x80000080140d, 0x0⟩,
  ⟨1, 5, 0x80000080140d, 0x0⟩,
  ⟨1, 5, 0x80000080140d, 0x0⟩,
  ⟨1, 5, 0x80000080140d, 0x0⟩,
  ⟨1, 5, 0x80000080140d, 0x0⟩,
  ⟨1, 5, 0x80000080140d, 0x0⟩,
  ⟨1, 5, 0x80000080140d, 0x0⟩,
  ⟨1, 5, 0x80000080140d, 0x0⟩,
  ⟨1, 5, 0x80000080140d, 0x0⟩,
  ⟨1, 5, 0x80000080140d, 0x0⟩,
  ⟨1, 5, 0x80000080140d, 0x0⟩,
  ⟨1, 5, 0x80000080140d, 0x0⟩,
  ⟨1, 5, 0x80000080140d, 0x0⟩,
  ⟨1, 5, 0x80000080140d, 0x0⟩,
  ⟨1, 5, 0x80000080140d, 0x0⟩,
  ⟨1, 5, 0x80000080140d, 0x0⟩,
  ⟨1, 5, 0x80000080140d, 0x0⟩,
  ⟨1, 5, 0x80000080140d, 0x0⟩,
  ⟨1, 5, 0x80000080140d, 0x0⟩,
  ⟨1, 5, 0x80000080140d, 0x0⟩,
  ⟨1, 5, 0x80000080140d, 0x0⟩,
  ⟨1, 5, 0x80000080140d, 0x0⟩,
  ⟨1, 5, 0x80000080140d, 0x0⟩,
  ⟨1, 5, 0x80000080140d, 0x0⟩,
  ⟨1, 5, 0x80000080140d, 0x0⟩,
  ⟨1, 5, 0x80000080140d, 0x0⟩,
  ⟨1, 5, 0x80000080140d, 0x0⟩,
  ⟨1, 5, 0x80000080140d, 0x0⟩,
  ⟨1, 5, 0x80000080140d, 0x0⟩,
  ⟨1, 5, 0x80000080140d, 0x0⟩,
  ⟨1, 5, 0x80000080140d, 0x0⟩,
  ⟨1, 5, 0x80000080140d, 0x0⟩,
  ⟨1, 5, 0x80000080140d, 0x0⟩,
  ⟨1, 5, 0x80000080140d, 0x0⟩,
  ⟨1, 5, 0x80000080140d, 0x0⟩,
  ⟨1, 5, 0x80000080140d, 0x0⟩,
  ⟨1, 5, 0x80000080140d, 0x0⟩,
  ⟨1, 5, 0x80000080140d, 0x0⟩,
  ⟨1, 5, 0x80000080140d, 0x0⟩,
  ⟨1, 5, 0x80000080140d, 0x0⟩,
  ⟨1, 5, 0x80000080140d, 0x0⟩,
  ⟨1, 5, 0x80000080140d, 0x0⟩,
  ⟨1, 5, 0x80000080140d, 0x0⟩,
  ⟨1, 5, 0x80000080140d, 0x0⟩,
  ⟨1, 5, 0x80000080140d, 0x0⟩,
  ⟨1, 5, 0x80000080140d, 0x0⟩,
  ⟨1, 5, 0x80000080140d, 0x0⟩,
  ⟨1, 5, 0x80000080140d, 0x0⟩,
  ⟨1, 5, 0x80000080140d, 0x0⟩,
  ⟨1, 5, 0x80000080140d, 0x0⟩,
  ⟨1, 5, 0x80000080140d, 0x0⟩,
  ⟨1, 5, 0x80000080140d, 0x0⟩]

/-- States 4800 to 4863. -/
def states4800 : List PackedRow := [
  ⟨1, 5, 0x80000080140d, 0x0⟩,
  ⟨1, 5, 0x80000080140d, 0x0⟩,
  ⟨1, 5, 0x80000080140d, 0x0⟩,
  ⟨1, 5, 0x80000080140d, 0x0⟩,
  ⟨1, 5, 0x80000080140d, 0x0⟩,
  ⟨1, 5, 0x80000080140d, 0x0⟩,
  ⟨1, 5, 0x80000080140d, 0x0⟩,
  ⟨1, 5, 0x80000080140d, 0x0⟩,
  ⟨1, 5, 0x80000080140d, 0x0⟩,
  ⟨1, 5, 0x80000080140d, 0x0⟩,
  ⟨1, 5, 0x80000080140d, 0x0⟩,
  ⟨1, 5, 0x80000080140d, 0x0⟩,
  ⟨1, 5, 0x80000080140d, 0x0⟩,
  ⟨1, 5, 0x80000080140d, 0x0⟩,
  ⟨1, 5, 0x80000080140d, 0x0⟩,
  ⟨1, 5, 0x80000080140d, 0x0⟩,
  ⟨1, 5, 0x800000801c0d, 0x0⟩,
  ⟨1, 5, 0x800000801c0d, 0x0⟩,
  ⟨1, 5, 0x800000801c0d, 0x0⟩,
  ⟨1, 5, 0x800000801c0d, 0x0⟩,
  ⟨1, 5, 0x800000801c0d, 0x0⟩,
  ⟨1, 5, 0x800000801c0d, 0x0⟩,
  ⟨1, 5, 0x800000801c0d, 0x0⟩,
  ⟨1, 5, 0x800000801c0d, 0x0⟩,
  ⟨1, 5, 0x800000801c0d, 0x0⟩,
  ⟨1, 5, 0x800000801c0d, 0x0⟩,
  ⟨1, 5, 0x800000801c0d, 0x0⟩,
  ⟨1, 5, 0x800000801c0d, 0x0⟩,
  ⟨1, 5, 0x800000801c0d, 0x0⟩,
  ⟨1, 5, 0x800000801c0d, 0x0⟩,
  ⟨1, 5, 0x800000801c0d, 0x0⟩,
  ⟨1, 5, 0x800000801c0d, 0x0⟩,
  ⟨1, 5, 0x800000801c0d, 0x0⟩,
  ⟨1, 5, 0x800000801c0d, 0x0⟩,
  ⟨1, 5, 0x800000801c0d, 0x0⟩,
  ⟨1, 5, 0x800000801c0d, 0x0⟩,
  ⟨1, 5, 0x800000801c0d, 0x0⟩,
  ⟨1, 5, 0x800000801c0d, 0x0⟩,
  ⟨1, 5, 0x800000801c0d, 0x0⟩,
  ⟨1, 5, 0x800000801c0d, 0x0⟩,
  ⟨1, 5, 0x800000801c0d, 0x0⟩,
  ⟨1, 5, 0x800000801c0d, 0x0⟩,
  ⟨1, 5, 0x800000801c0d, 0x0⟩,
  ⟨1, 5, 0x800000801c0d, 0x0⟩,
  ⟨1, 5, 0x800000801c0d, 0x0⟩,
  ⟨1, 5, 0x800000801c0d, 0x0⟩,
  ⟨1, 5, 0x800000801c0d, 0x0⟩,
  ⟨1, 5, 0x800000801c0d, 0x0⟩,
  ⟨1, 5, 0x800000801c0d, 0x0⟩,
  ⟨1, 5, 0x800000801c0d, 0x0⟩,
  ⟨1, 5, 0x800000801c0d, 0x0⟩,
  ⟨1, 5, 0x800000801c0d, 0x0⟩,
  ⟨1, 5, 0x800000801c0d, 0x0⟩,
  ⟨1, 5, 0x800000801c0d, 0x0⟩,
  ⟨1, 5, 0x800000801c0d, 0x0⟩,
  ⟨1, 5, 0x800000801c0d, 0x0⟩,
  ⟨1, 5, 0x800000801c0d, 0x0⟩,
  ⟨1, 5, 0x800000801c0d, 0x0⟩,
  ⟨1, 5, 0x800000801c0d, 0x0⟩,
  ⟨1, 5, 0x800000801c0d, 0x0⟩,
  ⟨1, 5, 0x800000801c0d, 0x0⟩,
  ⟨1, 5, 0x800000801c0d, 0x0⟩,
  ⟨1, 5, 0x800000801c0d, 0x0⟩,
  ⟨1, 5, 0x800000801c0d, 0x0⟩]

/-- States 4864 to 4927. -/
def states4864 : List PackedRow := [
  ⟨1, 5, 0x800000801c0d, 0x0⟩,
  ⟨1, 5, 0x800000801c0d, 0x0⟩,
  ⟨1, 5, 0x800000801c0d, 0x0⟩,
  ⟨1, 5, 0x800000801c0d, 0x0⟩,
  ⟨1, 5, 0x800000801c0d, 0x0⟩,
  ⟨1, 5, 0x800000801c0d, 0x0⟩,
  ⟨1, 5, 0x800000801c0d, 0x0⟩,
  ⟨1, 5, 0x800000801c0d, 0x0⟩,
  ⟨1, 5, 0x800000801c0d, 0x0⟩,
  ⟨1, 5, 0x800000801c0d, 0x0⟩,
  ⟨1, 5, 0x800000801c0d, 0x0⟩,
  ⟨1, 5, 0x800000801c0d, 0x0⟩,
  ⟨1, 5, 0x800000801c0d, 0x0⟩,
  ⟨1, 5, 0x800000801c0d, 0x0⟩,
  ⟨1, 5, 0x800000801c0d, 0x0⟩,
  ⟨1, 5, 0x800000801c0d, 0x0⟩,
  ⟨1, 5, 0x800000801c0d, 0x0⟩,
  ⟨1, 5, 0x800000801c0d, 0x0⟩,
  ⟨1, 5, 0x800000801c0d, 0x0⟩,
  ⟨1, 5, 0x800000801c0d, 0x0⟩,
  ⟨1, 5, 0x800000801c0d, 0x0⟩,
  ⟨1, 5, 0x800000801c0d, 0x0⟩,
  ⟨1, 5, 0x800000801c0d, 0x0⟩,
  ⟨1, 5, 0x800000801c0d, 0x0⟩,
  ⟨1, 5, 0x800000801c0d, 0x0⟩,
  ⟨1, 5, 0x800000801c0d, 0x0⟩,
  ⟨1, 5, 0x800000801c0d, 0x0⟩,
  ⟨1, 5, 0x800000801c0d, 0x0⟩,
  ⟨1, 5, 0x800000801c0d, 0x0⟩,
  ⟨1, 5, 0x800000801c0d, 0x0⟩,
  ⟨1, 5, 0x800000801c0d, 0x0⟩,
  ⟨1, 5, 0x800000801c0d, 0x0⟩,
  ⟨1, 5, 0x800000801c0d, 0x0⟩,
  ⟨1, 5, 0x800000801c0d, 0x0⟩,
  ⟨1, 5, 0x800000801c0d, 0x0⟩,
  ⟨1, 5, 0x80000080540d, 0x0⟩,
  ⟨1, 5, 0x80000080540d, 0x0⟩,
  ⟨1, 5, 0x80000080540d, 0x0⟩,
  ⟨1, 5, 0x80000080540d, 0x0⟩,
  ⟨1, 5, 0x80000080540d, 0x0⟩,
  ⟨1, 5, 0x80000080540d, 0x0⟩,
  ⟨1, 5, 0x80000080540d, 0x0⟩,
  ⟨1, 5, 0x80000080540d, 0x0⟩,
  ⟨1, 5, 0x80000080540d, 0x0⟩,
  ⟨1, 5, 0x80000080540d, 0x0⟩,
  ⟨1, 5, 0x80000080540d, 0x0⟩,
  ⟨1, 5, 0x80000080540d, 0x0⟩,
  ⟨1, 5, 0x80000080540d, 0x0⟩,
  ⟨1, 5, 0x80000080540d, 0x0⟩,
  ⟨1, 5, 0x80000080540d, 0x0⟩,
  ⟨1, 5, 0x80000080540d, 0x0⟩,
  ⟨1, 5, 0x80000080540d, 0x0⟩,
  ⟨1, 5, 0x80000080540d, 0x0⟩,
  ⟨1, 5, 0x80000080540d, 0x0⟩,
  ⟨1, 5, 0x80000080540d, 0x0⟩,
  ⟨1, 5, 0x80000080540d, 0x0⟩,
  ⟨1, 5, 0x80000080540d, 0x0⟩,
  ⟨1, 5, 0x80000080540d, 0x0⟩,
  ⟨1, 5, 0x80000080540d, 0x0⟩,
  ⟨1, 5, 0x80000080540d, 0x0⟩,
  ⟨1, 5, 0x80000080540d, 0x0⟩,
  ⟨1, 5, 0x80000080540d, 0x0⟩,
  ⟨1, 5, 0x80000080540d, 0x0⟩,
  ⟨1, 5, 0x80000080540d, 0x0⟩]

/-- States 4928 to 4991. -/
def states4928 : List PackedRow := [
  ⟨1, 5, 0x80000080540d, 0x0⟩,
  ⟨1, 5, 0x80000080540d, 0x0⟩,
  ⟨1, 5, 0x80000083d00d, 0x0⟩,
  ⟨1, 5, 0x80000083d00d, 0x0⟩,
  ⟨1, 5, 0x80000083d00d, 0x0⟩,
  ⟨1, 5, 0x80000083d00d, 0x0⟩,
  ⟨2, 2, 0x800000856554, 0x0⟩,
  ⟨2, 2, 0x800000856d54, 0x0⟩,
  ⟨2, 2, 0x800000857d54, 0x0⟩,
  ⟨2, 2, 0x8000008108d7, 0x0⟩,
  ⟨2, 2, 0x8000008108d7, 0x0⟩,
  ⟨2, 2, 0x8000008218d7, 0x0⟩,
  ⟨2, 2, 0x80000080f0d7, 0x0⟩,
  ⟨2, 2, 0x80000080f0d7, 0x0⟩,
  ⟨2, 2, 0x800000821cd7, 0x0⟩,
  ⟨1, 2, 0x800000129007, 0x133487129086⟩,
  ⟨1, 2, 0x80000058c40c582007, 0x404491⟩,
  ⟨1, 2, 0x80000037543420d42a, 0x4d7821⟩,
  ⟨1, 2, 0x80000018cc3424ac2a, 0x4d7c1f⟩,
  ⟨1, 2, 0x80000018cc3424ac2a, 0x45e41f⟩,
  ⟨1, 2, 0x80000037543420d42a, 0x45e821⟩,
  ⟨1, 2, 0x80000039844a03302a, 0x4d8067⟩,
  ⟨1, 2, 0x80000037584503b02a, 0x4d883d⟩,
  ⟨1, 2, 0x80000018d04504142a, 0x4d842f⟩,
  ⟨1, 2, 0x80000018d04504142a, 0x43582f⟩,
  ⟨1, 2, 0x80000037584503b02a, 0x46103d⟩,
  ⟨1, 2, 0x8000004d185544582a, 0x4d9072⟩,
  ⟨1, 2, 0x120411800000059c03120007, 0x0⟩,
  ⟨1, 2, 0x800000191c3424ac2a, 0x45e41f⟩,
  ⟨1, 2, 0x80000037603420d42a, 0x45e821⟩,
  ⟨1, 2, 0x80000037643420d42a, 0x45e821⟩,
  ⟨1, 2, 0x80000019203424ac2a, 0x45e41f⟩,
  ⟨1, 2, 0x80000039884a03342a, 0x467467⟩,
  ⟨1, 2, 0x80000019284504142a, 0x43582f⟩,
  ⟨1, 2, 0x80000037684503b02a, 0x46103d⟩,
  ⟨1, 2, 0x80000051e41d041002, 0x1e6429⟩,
  ⟨1, 2, 0x8000004d1c5544642a, 0x468872⟩,
  ⟨2, 2, 0x80000014a83b, 0x40ac66⟩,
  ⟨1, 2, 0x800000165c4a04142a, 0x4dbc2f⟩,
  ⟨1, 2, 0x800000165c4a04142a, 0x43582f⟩,
  ⟨1, 2, 0x80000055941d196c554f8824, 0x0⟩,
  ⟨1, 5, 0x80000057101d40e068, 0x0⟩,
  ⟨1, 5, 0x80000057141d40e068, 0x0⟩,
  ⟨1, 2, 0x8000001e98450dec2a, 0x4dc45e⟩,
  ⟨1, 2, 0x11243c8000000f90150f8c12, 0x0⟩,
  ⟨2, 2, 0x80000014a83b, 0x40fc66⟩,
  ⟨1, 2, 0x80000041043428cc2a, 0x4dcc63⟩,
  ⟨1, 2, 0x80000016604a04142a, 0x43582f⟩,
  ⟨1, 2, 0x8000001ed8550ea02a, 0x43cc4f⟩,
  ⟨1, 2, 0x8000001f04450df02a, 0x473c5e⟩,
  ⟨1, 2, 0x80000041383428d02a, 0x474863⟩,
  ⟨1, 2, 0x80000041403428d42a, 0x474863⟩,
  ⟨1, 2, 0x800000279007, 0x293887279086⟩,
  ⟨1, 2, 0x800000516c3424ac2a, 0x4de41f⟩,
  ⟨1, 2, 0x800000516c3424ac2a, 0x45e41f⟩,
  ⟨1, 2, 0x80000037a84a03382a, 0x4de867⟩,
  ⟨1, 2, 0x80000051703424ac2a, 0x45e41f⟩,
  ⟨1, 2, 0x80000051743424ac2a, 0x45e41f⟩,
  ⟨1, 2, 0x80000037ac4a033c2a, 0x467467⟩,
  ⟨1, 2, 0x80000052901d042402, 0x2eec29⟩,
  ⟨1, 2, 0x8000000e804a04142a, 0x4e042f⟩,
  ⟨1, 2, 0x8000000e804a04142a, 0x43582f⟩,
  ⟨1, 2, 0x80000055941d4190554f8824, 0x0⟩,
  ⟨1, 2, 0x8000002fc4450df42a, 0x4e1c5e⟩]

/-- States 4992 to 5055. -/
def states4992 : List PackedRow := [
  ⟨1, 2, 0x112c3c8000000fcc150fc812, 0x0⟩,
  ⟨1, 2, 0x8000000e844a04142a, 0x43582f⟩,
  ⟨1, 2, 0x8000001748550eac2a, 0x43cc4f⟩,
  ⟨1, 2, 0x2bd8118000002c4c032bd407, 0x0⟩,
  ⟨1, 2, 0x2be8118000002c50032be407, 0x0⟩,
  ⟨1, 2, 0x2bf8118000002c54032bf407, 0x0⟩,
  ⟨1, 2, 0x2c08118000002c58032c0407, 0x0⟩,
  ⟨1, 2, 0x8000002fe8450df82a, 0x473c5e⟩,
  ⟨1, 2, 0x80000052c81d041c02, 0x17b829⟩,
  ⟨1, 2, 0x8000002dcc4a04142a, 0x4e382f⟩,
  ⟨1, 2, 0x8000002dcc4a04142a, 0x43582f⟩,
  ⟨1, 2, 0x80000055941d41c8554f8824, 0x0⟩,
  ⟨1, 2, 0x80000017e8450dfc2a, 0x4e405e⟩,
  ⟨1, 2, 0x11303c800000100815100412, 0x0⟩,
  ⟨1, 2, 0x8000002dd44a04142a, 0x43582f⟩,
  ⟨1, 2, 0x8000002b10550eb82a, 0x43cc4f⟩,
  ⟨1, 2, 0x800000184c450e002a, 0x473c5e⟩,
  ⟨1, 2, 0x80000052e81d042c02, 0x30ec29⟩,
  ⟨1, 2, 0x80000026784a04142a, 0x4e582f⟩,
  ⟨1, 2, 0x80000026784a04142a, 0x43582f⟩,
  ⟨1, 2, 0x80000032fc450e042a, 0x4e705e⟩,
  ⟨1, 2, 0x11343c800000103c15103812, 0x0⟩,
  ⟨1, 2, 0x80000026804a04142a, 0x43582f⟩,
  ⟨1, 2, 0x8000002ddc550ec42a, 0x43cc4f⟩,
  ⟨1, 2, 0x2de8118000002c64032de407, 0x0⟩,
  ⟨1, 2, 0x2df8118000002c68032df407, 0x0⟩,
  ⟨1, 2, 0x2e08118000002c6c032e0407, 0x0⟩,
  ⟨1, 2, 0x2e18118000002c70032e1407, 0x0⟩,
  ⟨1, 2, 0x8000003328450e082a, 0x473c5e⟩,
  ⟨1, 2, 0x80000030384a04142a, 0x4e7c2f⟩,
  ⟨1, 2, 0x80000030384a04142a, 0x43582f⟩,
  ⟨1, 2, 0x80000030604a04142a, 0x43582f⟩,
  ⟨1, 2, 0x8000004d34550ecc2a, 0x43cc4f⟩,
  ⟨1, 2, 0x80000034884a04142a, 0x4e8c2f⟩,
  ⟨1, 2, 0x80000034884a04142a, 0x43582f⟩,
  ⟨1, 2, 0x800000348c4a04142a, 0x43582f⟩,
  ⟨1, 2, 0x800000331c550ed42a, 0x43cc4f⟩,
  ⟨1, 2, 0x800000532017039c02, 0xcc6f⟩,
  ⟨1, 2, 0x80000045b0a23ad036, 0x519460⟩,
  ⟨1, 2, 0x800000308c094eb407, 0x444c50⟩,
  ⟨1, 2, 0x800000540428352c07, 0x4d6862⟩,
  ⟨1, 2, 0x80000083e05b00dd38, 0xc987c⟩,
  ⟨1, 2, 0x800000500c1d042802, 0x2b2829⟩,
  ⟨1, 2, 0x11383c800000107c15107812, 0x0⟩,
  ⟨1, 2, 0x800000500c1d043002, 0x2b2829⟩,
  ⟨8, 2, 0x800000459c0110b408, 0x582400⟩,
  ⟨1, 2, 0x8000000548d107c808, 0x0⟩,
  ⟨1, 2, 0x113c3c80000010c01510bc12, 0x0⟩,
  ⟨1, 2, 0x80000053841703a002, 0x1286f⟩,
  ⟨1, 2, 0x80000083e05b013538, 0xc987c⟩,
  ⟨1, 2, 0x80000080309a82dc08, 0x0⟩,
  ⟨1, 2, 0x800000051402, 0x842b⟩,
  ⟨1, 2, 0x800000051402, 0x882b⟩,
  ⟨1, 2, 0x800000051402, 0x4f002b⟩,
  ⟨1, 2, 0x800000051402, 0x902b⟩,
  ⟨1, 2, 0x800000004809, 0xaf420⟩,
  ⟨1, 5, 0x8000000c0068, 0x0⟩,
  ⟨20, 2, 0x80000089f6ad, 0x0⟩,
  ⟨1, 5, 0x8000000c1068, 0x0⟩,
  ⟨1, 2, 0x800000031c02, 0x387c01⟩,
  ⟨1, 2, 0x8000005424203adc07, 0x0⟩,
  ⟨1, 2, 0x80000045b0a2, 0x4f3460⟩,
  ⟨1, 2, 0x80000045b0a2, 0x433c60⟩,
  ⟨1, 2, 0x80000085c0a243402a, 0x0⟩]

/-- States 5056 to 5119. -/
def states5056 : List PackedRow := [
  ⟨1, 2, 0x800000389409, 0xc3494⟩,
  ⟨1, 2, 0x80000004d802, 0x946f⟩,
  ⟨1, 5, 0x8000000c4468, 0x0⟩,
  ⟨1, 5, 0x8000000c4868, 0x0⟩,
  ⟨1, 5, 0x8000000c4c68, 0x0⟩,
  ⟨1, 5, 0x8000000c5068, 0x0⟩,
  ⟨1, 2, 0x80000015d409, 0x20f426⟩,
  ⟨1, 2, 0x800000005809, 0x20fc20⟩,
  ⟨1, 2, 0x800000004809, 0xc5820⟩,
  ⟨1, 2, 0x800000289c09, 0xc607a⟩,
  ⟨1, 2, 0x13c81180000013c407, 0x0⟩,
  ⟨1, 2, 0x13d01180000013cc07, 0x0⟩,
  ⟨1, 2, 0x800000829100, 0x0⟩,
  ⟨1, 5, 0xc68578000000c6c46, 0x0⟩,
  ⟨1, 2, 0x8000005498203b2c07, 0x0⟩,
  ⟨1, 2, 0x80000045b0a2, 0x438060⟩,
  ⟨1, 2, 0x80000089f867, 0x0⟩,
  ⟨1, 2, 0x800000213809, 0x4fd495⟩,
  ⟨1, 5, 0x8000000c8868, 0x0⟩,
  ⟨1, 5, 0x8000000c7c68, 0x0⟩,
  ⟨1, 2, 0x800000845867, 0x0⟩,
  ⟨1, 2, 0x800000818c67, 0x0⟩,
  ⟨1, 2, 0x800000004809, 0x4fe420⟩,
  ⟨1, 2, 0x8000000eec24, 0x46641c⟩,
  ⟨1, 2, 0x800000289c09, 0xc947a⟩,
  ⟨1, 2, 0x8000008580d6, 0x0⟩,
  ⟨1, 2, 0x800000058002, 0xb782b⟩,
  ⟨1, 2, 0x800000004809, 0xca420⟩,
  ⟨1, 2, 0x80000084649a, 0x0⟩,
  ⟨1, 2, 0x80000015f809, 0x3c026⟩,
  ⟨1, 2, 0x800000031c02, 0x54d801⟩,
  ⟨1, 2, 0x80000015d409, 0x217c26⟩,
  ⟨1, 2, 0x800000005809, 0x218420⟩,
  ⟨1, 2, 0x800000005809, 0x219020⟩,
  ⟨10, 2, 0x80000038dc75, 0x0⟩,
  ⟨1, 2, 0x8000008420c8, 0x0⟩,
  ⟨1, 2, 0x800000042002, 0x134429⟩,
  ⟨1, 2, 0x800000031c02, 0x3b9001⟩,
  ⟨1, 2, 0x800000041002, 0x21ac29⟩,
  ⟨1, 2, 0x80000021b0554f8824, 0x0⟩,
  ⟨1, 2, 0x80000055981d21b455, 0x0⟩,
  ⟨1, 2, 0x800000844900, 0x0⟩,
  ⟨1, 2, 0x800000844d00, 0x0⟩,
  ⟨1, 2, 0x800000845100, 0x0⟩,
  ⟨1, 2, 0x80000015d409, 0x21b826⟩,
  ⟨1, 5, 0xcd0578000000cd446, 0x0⟩,
  ⟨1, 2, 0x800000465807, 0x465c15⟩,
  ⟨1, 5, 0x8000000cd868, 0x0⟩,
  ⟨1, 2, 0x800000160409, 0xb8026⟩,
  ⟨1, 5, 0x8000000cec68, 0x0⟩,
  ⟨1, 5, 0x8000000cf068, 0x0⟩,
  ⟨1, 2, 0x80000089fc67, 0x0⟩,
  ⟨1, 5, 0xcf8578000000cfc46, 0x0⟩,
  ⟨1, 5, 0x8000008a0068, 0x0⟩,
  ⟨1, 2, 0x800000004809, 0x506c20⟩,
  ⟨1, 2, 0x800000859867, 0x0⟩,
  ⟨1, 2, 0x800000004809, 0x507420⟩,
  ⟨1, 2, 0x800000852c67, 0x0⟩,
  ⟨1, 2, 0x80000015d409, 0x21c026⟩,
  ⟨1, 2, 0x800000005809, 0x21c820⟩,
  ⟨1, 2, 0x80000085a0d6, 0x0⟩,
  ⟨1, 2, 0x8000008588d6, 0x0⟩,
  ⟨1, 2, 0x8000008a04d6, 0x0⟩,
  ⟨1, 2, 0x80000015ec09, 0x261c26⟩]

end JsxDetect.Automaton
