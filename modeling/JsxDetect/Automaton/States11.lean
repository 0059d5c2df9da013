import JsxDetect.Automaton.Packed

/-!
# Parsing automaton: states 5632 to 5689

Packed rows; see `PackedRow` for the layout.
-/

namespace JsxDetect.Automaton

/-- States 5632 to 5689. -/
def states5632 : List PackedRow := [
  ⟨1, 2, 0x800000076808, 0x0⟩,
  ⟨1, 2, 0x800000573814, 0x0⟩,
  ⟨1, 2, 0x800000059025, 0x0⟩,
  ⟨1, 2, 0x800000059425, 0x0⟩,
  ⟨1, 2, 0x800000059825, 0x0⟩,
  ⟨1, 2, 0x80000007ac08, 0x0⟩,
  ⟨1, 2, 0x8000004eb407, 0x0⟩,
  ⟨1, 2, 0x800000574813, 0x0⟩,
  ⟨1, 2, 0x800000532c08, 0x0⟩,
  ⟨1, 2, 0x80000010b808, 0x0⟩,
  ⟨1, 2, 0x80000044fc0b, 0x0⟩,
  ⟨1, 2, 0x8000003a8007, 0x0⟩,
  ⟨1, 2, 0x8000000e7425, 0x0⟩,
  ⟨1, 2, 0x80000004f046, 0x0⟩,
  ⟨1, 2, 0x80000010cc25, 0x0⟩,
  ⟨1, 2, 0x8000000e7825, 0x0⟩,
  ⟨1, 2, 0x80000010d424, 0x0⟩,
  ⟨1, 2, 0x10c882800000, 0x0⟩,
  ⟨1, 2, 0x80000004f846, 0x0⟩,
  ⟨1, 2, 0x80000010d825, 0x0⟩,
  ⟨1, 2, 0x80000010dc25, 0x0⟩,
  ⟨1, 2, 0x80000010e425, 0x0⟩,
  ⟨1, 2, 0x80000009b07e, 0x0⟩,
  ⟨1, 2, 0x800000062025, 0x0⟩,
  ⟨1, 2, 0x800000087c08, 0x0⟩,
  ⟨1, 2, 0x800000062425, 0x0⟩,
  ⟨1, 2, 0x800000062825, 0x0⟩,
  ⟨1, 2, 0x800000062c25, 0x0⟩,
  ⟨1, 2, 0x80000009e808, 0x0⟩,
  ⟨1, 2, 0x800000013c4a, 0x0⟩,
  ⟨1, 2, 0x80000001484a, 0x0⟩,
  ⟨1, 2, 0x800000014c4a, 0x0⟩,
  ⟨1, 2, 0x80000001544a, 0x0⟩,
  ⟨1, 2, 0x80000009ac08, 0x0⟩,
  ⟨1, 2, 0x80000008287e, 0x0⟩,
  ⟨1, 2, 0x80000005c025, 0x0⟩,
  ⟨1, 2, 0x800000082408, 0x0⟩,
  ⟨1, 2, 0x80000005c425, 0x0⟩,
  ⟨1, 2, 0x80000005c825, 0x0⟩,
  ⟨1, 2, 0x80000005cc25, 0x0⟩,
  ⟨1, 2, 0x800000086408, 0x0⟩,
  ⟨1, 2, 0x80000045100b, 0x0⟩,
  ⟨1, 2, 0x800000050046, 0x0⟩,
  ⟨1, 2, 0x800000050846, 0x0⟩,
  ⟨1, 2, 0x80000008dc08, 0x0⟩,
  ⟨1, 2, 0x80000045180b, 0x0⟩,
  ⟨1, 2, 0x800000093c08, 0x0⟩,
  ⟨1, 2, 0x80000045200b, 0x0⟩,
  ⟨1, 2, 0x800000536c10, 0x0⟩,
  ⟨1, 2, 0x800000582007, 0x0⟩,
  ⟨1, 2, 0x80000042e007, 0x0⟩,
  ⟨1, 2, 0x80000004cc46, 0x0⟩,
  ⟨1, 2, 0x80000045280b, 0x0⟩,
  ⟨1, 2, 0x800000385007, 0x0⟩,
  ⟨1, 2, 0x800000584007, 0x0⟩,
  ⟨1, 2, 0x80000042ec07, 0x0⟩,
  ⟨1, 2, 0x80000004d446, 0x0⟩,
  ⟨1, 2, 0x80000045440b, 0x0⟩]

end JsxDetect.Automaton
